import ExynosHal.Audio.Steady

/-! # The status of a stream tells whether its device is open

A failed open leaves a stream READY in `out_write` and `in_read`, though not in the functions for MMAP buffers.
-/

namespace ExynosHal.Audio
open Library.Run
open Option (map_eq_some_iff)
open Function (update update_of_ne update_self)
open State (modifyIn_self modifyOut_self)

def StreamOut.StatusOk (out : StreamOut) : Prop := out.streamStatus ≠ .ready ∧ out.streamStatus.aboveReady = out.isOpen

def StreamIn.StatusOk (input : StreamIn) : Prop :=
  input.streamStatus ≠ .ready ∧ (input.isOpen → input.streamStatus.aboveReady) ∧
    (input.streamStatus.aboveReady → input.isOpen ∨ input.pcmReconfig)

structure StatusTellsOpen (s : State) : Prop where
  outs : ∀ a out, s.outs a = some out → out.StatusOk
  ins : ∀ a input, s.ins a = some input → input.StatusOk
  misused : s.misused = false

def OpensOk (s : State) : Op × Env → Prop
  | (.outWrite a _, env) => (s.outs a).any (fun out => out.streamStatus == .standby) = true → env.openOk = true
  | (.inRead a _, env) =>
    (s.ins a).any (fun input => input.streamStatus == .standby || input.pcmReconfig) = true → env.openOk = true
  | _ => True

def StreamIn.Good (input : StreamIn) : Prop :=
  input.StatusOk ∧ (input.streamType = .captureMmap → input.streamStatus.aboveReady = input.isOpen)

structure GoodBut (a : Addr) (s : State) : Prop where
  outs : ∀ p out, p ≠ a → s.outs p = some out → out.StatusOk
  ins : ∀ p input, s.ins p = some input → input.Good
  misused : s.misused = false

structure GoodButIn (a : Addr) (s : State) : Prop where
  outs : ∀ p out, s.outs p = some out → out.StatusOk
  ins : ∀ p input, p ≠ a → s.ins p = some input → input.Good
  misused : s.misused = false

structure Good (s : State) : Prop where
  outs : ∀ p out, s.outs p = some out → out.StatusOk
  ins : ∀ p input, s.ins p = some input → input.Good
  misused : s.misused = false

section
variable {b : Build} {env : Env} {s s' : State} {a : Addr}

theorem Good.goodBut (h : Good s) (a : Addr) : GoodBut a s := ⟨fun p out _ => h.outs p out, h.ins, h.misused⟩

theorem Good.goodButIn (h : Good s) (a : Addr) : GoodButIn a s := ⟨h.outs, fun p input _ => h.ins p input, h.misused⟩

theorem Good.congr (h : Good s) (houts : s'.outs = s.outs) (hins : s'.ins = s.ins) (hmisused : s'.misused = s.misused) :
    Good s' :=
  ⟨houts ▸ h.outs, hins ▸ h.ins, hmisused.trans h.misused⟩

theorem Good.sameStreams (h : Good s) (hs : SameStreams b s s') : Good s' := by
  obtain ⟨p, c, v, running, on, rfl, -⟩ := hs
  exact ⟨h.outs, h.ins, h.misused⟩

theorem GoodBut.sameStreams (h : GoodBut a s) (hs : SameStreams b s s') : GoodBut a s' := by
  obtain ⟨p, c, v, running, on, rfl, -⟩ := hs
  exact ⟨h.outs, h.ins, h.misused⟩

theorem GoodButIn.sameStreams (h : GoodButIn a s) (hs : SameStreams b s s') : GoodButIn a s' := by
  obtain ⟨p, c, v, running, on, rfl, -⟩ := hs
  exact ⟨h.outs, h.ins, h.misused⟩

theorem GoodBut.modifyOut (h : GoodBut a s) (f : StreamOut → StreamOut) : GoodBut a (s.modifyOut a f) := by
  refine ⟨?_, h.ins, h.misused⟩
  intro p out hp hout
  rw [State.modifyOut_outs, update_of_ne hp] at hout
  exact h.outs p out hp hout

theorem GoodButIn.modifyIn (h : GoodButIn a s) (f : StreamIn → StreamIn) : GoodButIn a (s.modifyIn a f) := by
  refine ⟨h.outs, ?_, h.misused⟩
  intro p input hp hinput
  rw [State.modifyIn_ins, update_of_ne hp] at hinput
  exact h.ins p input hp hinput

theorem GoodBut.good (h : GoodBut a s) (hout : ∀ out, s.outs a = some out → out.StatusOk) : Good s := by
  refine ⟨?_, h.ins, h.misused⟩
  intro p out hp
  rcases eq_or_ne p a with rfl | hne
  · exact hout out hp
  · exact h.outs p out hne hp

theorem GoodButIn.good (h : GoodButIn a s) (hin : ∀ input, s.ins a = some input → input.Good) : Good s := by
  refine ⟨h.outs, ?_, h.misused⟩
  intro p input hp
  rcases eq_or_ne p a with rfl | hne
  · exact hin input hp
  · exact h.ins p input hne hp

theorem Good.modifyOut (h : Good s) {f : StreamOut → StreamOut}
    (hf : ∀ out, s.outs a = some out → out.StatusOk → (f out).StatusOk) : Good (s.modifyOut a f) := by
  refine ((h.goodBut a).modifyOut f).good ?_
  intro out' hout'
  rw [State.modifyOut_outs, update_self] at hout'
  obtain ⟨out, hout, rfl⟩ := map_eq_some_iff.mp hout'
  exact hf out hout (h.outs a out hout)

theorem Good.modifyIn (h : Good s) {f : StreamIn → StreamIn}
    (hf : ∀ input, s.ins a = some input → input.Good → (f input).Good) : Good (s.modifyIn a f) := by
  refine ((h.goodButIn a).modifyIn f).good ?_
  intro input' hinput'
  rw [State.modifyIn_ins, update_self] at hinput'
  obtain ⟨input, hinput, rfl⟩ := map_eq_some_iff.mp hinput'
  exact hf input hinput (h.ins a input hinput)

theorem Good.updateStreams (h : Good s) (changed : Bool) : Good (s.updateStreams env changed) := by
  refine ⟨?_, ?_, h.misused⟩
  · intro p out' hout'
    unfold State.updateStreams at hout'
    dsimp only at hout'
    split at hout'
    · obtain ⟨out, hout, rfl⟩ := map_eq_some_iff.mp hout'
      unfold State.closeForCall
      split
      · exact ⟨nofun, rfl⟩
      · exact h.outs p out hout
    · exact h.outs p out' hout'
  · intro p input' hinput'
    unfold State.updateStreams at hinput'
    dsimp only at hinput'
    split at hinput'
    · obtain ⟨input, hinput, rfl⟩ := map_eq_some_iff.mp hinput'
      obtain ⟨⟨hready, -, hopen⟩, hmmap⟩ := h.ins p input hinput
      unfold State.reconfigForCall
      split
      · rename_i hprim
        exact ⟨⟨hready, nofun, fun _ => Or.inr rfl⟩, fun hmmap => by rw [hprim.1] at hmmap; cases hmmap⟩
      · exact h.ins p input hinput
    · exact h.ins p input' hinput'

theorem Good.callUpdated (h : Good s) (hs : CallUpdated b env s s') : Good s' := by
  rcases hs with hs | ⟨changed, hs⟩
  · exact h.sameStreams hs
  · exact (h.updateStreams changed).sameStreams hs

end

section
variable {b : Build} {env : Env} {s s' : State} {a : Addr} {out : StreamOut} {input : StreamIn}

theorem proxyUsePlayback_eq (h : s.outs a = some out) (hopen : out.isOpen) : s.proxyUsePlayback a = s := by
  simp [State.proxyUsePlayback, h, hopen]

theorem proxyUseCapture_eq (h : s.ins a = some input) (hopen : input.isOpen) : s.proxyUseCapture a = s := by
  simp [State.proxyUseCapture, h, hopen]

theorem proxyOpenPlayback_eq (h : s.outs a = some out) (hclosed : out.isOpen = false) :
    s.proxyOpenPlayback env a = if env.openOk then s.modifyOut a fun out => { out with isOpen := true } else s := by
  simp [State.proxyOpenPlayback, h, hclosed]

theorem proxyOpenCapture_eq (h : s.ins a = some input) (hclosed : input.isOpen = false) :
    s.proxyOpenCapture env a = if env.openOk then s.modifyIn a fun input => { input with isOpen := true } else s := by
  simp [State.proxyOpenCapture, h, hclosed]

end

section
variable {b : Build} {env : Env} {s s' : State} {a : Addr} {out : StreamOut}

theorem StreamOut.StatusOk.isOpen (h : out.StatusOk) (hstat : out.streamStatus.aboveReady) : out.isOpen :=
  h.2.symm.trans hstat

variable {status : Status}

theorem Good.setOutStatus (h : Good s)
    (hstat : ∀ out, s.outs a = some out → status ≠ .ready ∧ status.aboveReady = out.isOpen) :
    Good (s.setOutStatus a status) :=
  h.modifyOut fun out hout _ => hstat out hout

variable {data : Bool}

theorem Good.writeData (h : Good s) (hs : s.writeData env a data = some s') : Good s' := by
  obtain ⟨out, hout, hs⟩ := unbind hs
  have hok := h.outs a out hout
  split at hs
  · rename_i hdata
    have hopen := hok.isOpen hdata.1
    simp only [proxyUsePlayback_eq hout hopen] at hs
    split at hs
    · split at hs
      · cases hs
        refine h.setOutStatus ?_
        intro out' hout'
        rw [hout] at hout'
        cases hout'
        exact ⟨nofun, hopen.symm⟩
      · cases hs
        exact h
    · cases hs
      exact h
  · cases hs
    exact h

theorem Good.openPlayback (h : GoodBut a s) (hout : s.outs a = some out) (hclosed : out.isOpen = false)
    (hok : env.openOk) : Good ((s.proxyOpenPlayback env a).setOutStatus a .idle) := by
  rw [proxyOpenPlayback_eq hout hclosed, if_pos hok]
  refine ((h.modifyOut _).modifyOut _).good ?_
  intro out' hout'
  rw [modifyOut_self (modifyOut_self hout)] at hout'
  cases hout'
  exact ⟨nofun, rfl⟩

theorem StreamOut.StatusOk.closed (h : out.StatusOk) (hstat : out.streamStatus = .standby) : out.isOpen = false := by
  rw [← h.2, hstat]
  rfl

theorem Good.outWrite (h : Good s) (hopens : OpensOk s (.outWrite a data, env))
    (hs : s.outWrite b env a data = some s') : Good s' := by
  obtain ⟨out, hout, hs⟩ := unbind hs
  have hok := h.outs a out hout
  split at hs
  · rename_i hstby
    have hopen : env.openOk = true := hopens (by simp [hout, hstby])
    obtain ⟨routed, hrouted, hs⟩ := unbind hs
    have hsame := State.routeForWrite_sameStreams hrouted
    have hbut : GoodBut a routed := (((h.goodBut a).modifyOut _).modifyOut _).sameStreams hsame
    have hstrm : routed.outs a = some { out with released := false, streamStatus := .ready } := by
      rw [hsame.outs_eq]
      exact modifyOut_self (modifyOut_self hout)
    simp only [hopen, if_true] at hs
    exact (Good.openPlayback hbut hstrm (hok.closed hstby) hopen).writeData hs
  · have hused : Good (s.useOut a) := h.modifyOut fun _ _ hok => hok
    exact hused.writeData hs

theorem Good.outStandby (h : Good s) (hs : s.outStandby b env a = some s') : Good s' := by
  obtain ⟨out, hout, hcases⟩ := State.outStandby_cases hs
  have hrel : Good (s.modifyOut a fun out => { out with released := true }) := h.modifyOut fun _ _ hok => hok
  rcases hcases with ⟨-, rfl⟩ | ⟨-, unrouted, hunrouted, rfl⟩
  · exact hrel
  · have hclosed : Good (s.closedOut a) := by
      refine (((hrel.goodBut a).modifyOut _).modifyOut _).good ?_
      intro out' hout'
      rw [modifyOut_self (modifyOut_self (modifyOut_self hout))] at hout'
      cases hout'
      exact ⟨nofun, rfl⟩
    have hupdated := hclosed.callUpdated (State.unrouteForStandby_updated hunrouted)
    exact hupdated.modifyOut fun _ _ hok => hok

theorem Good.setStatusIf {c : StreamOut → Prop} [∀ out, Decidable (c out)] (h : Good s)
    (hs : ((s.outs a).bind fun out => if c out then some (s.setOutStatus a status) else some s) = some s')
    (haboveReady : status.aboveReady) (hstat : status ≠ .ready)
    (hc : ∀ out, c out → out.streamStatus.aboveReady) : Good s' := by
  obtain ⟨out, hout, hs⟩ := unbind hs
  split at hs
  · rename_i hheld
    cases hs
    refine h.modifyOut fun out' hout' hok => ?_
    cases hout.symm.trans hout'
    exact ⟨fun hready => absurd hready hstat, haboveReady.trans (hok.isOpen (hc out hheld)).symm⟩
  · cases hs
    exact h

theorem Status.aboveReady_of_aboveIdle (h : status.aboveIdle) : status.aboveReady := by
  revert h
  cases status <;> decide

theorem Good.outStart (h : Good s) (hs : s.outStart env a = some s') : Good s' := by
  obtain ⟨out, hout, hs⟩ := unbind hs
  split at hs
  · rename_i hidle
    have hopen : out.isOpen = true := (h.outs a out hout).isOpen (by rw [hidle.2]; rfl)
    simp only [proxyUsePlayback_eq hout hopen] at hs
    split at hs
    · cases hs
      refine h.modifyOut fun out' hout' hok => ?_
      cases hout.symm.trans hout'
      exact ⟨nofun, hopen.symm⟩
    · cases hs
      exact h
  · cases hs
    exact h

theorem Good.openPlaybackOrStandby (h : GoodBut a s) (hout : s.outs a = some out) (hclosed : out.isOpen = false) :
    Good ((s.proxyOpenPlayback env a).setOutStatus a (if env.openOk then .idle else .standby)) := by
  cases hok : env.openOk with
  | true => exact Good.openPlayback h hout hclosed hok
  | false =>
    rw [proxyOpenPlayback_eq hout hclosed, hok]
    refine (h.modifyOut _).good ?_
    intro out' hout'
    rw [modifyOut_self hout] at hout'
    cases hout'
    exact ⟨nofun, hclosed.symm⟩

theorem Good.outCreateMmapBuffer (h : Good s) {valid : Bool} (hs : s.outCreateMmapBuffer b env a valid = some s') :
    Good s' := by
  obtain ⟨out, hout, hs⟩ := unbind hs
  split at hs
  · rename_i hstby
    obtain ⟨routed, hrouted, hs⟩ := unbind hs
    cases hs
    have hsame : SameStreams b ((s.useOut a).setOutStatus a .ready) routed := by
      split at hrouted
      · cases hrouted
        exact .refl _
      · exact (State.setRoutePlayback_rerouted hrouted).sameStreams
    have hbut : GoodBut a routed := (((h.goodBut a).modifyOut _).modifyOut _).sameStreams hsame
    have hstrm : routed.outs a = some { out with released := false, streamStatus := .ready } := by
      rw [hsame.outs_eq]
      exact modifyOut_self (modifyOut_self hout)
    exact Good.openPlaybackOrStandby hbut hstrm ((h.outs a out hout).closed hstby.2.2)
  · cases hs
    exact h

end

section
variable {b : Build} {env : Env} {s s' : State} {a : Addr} {input : StreamIn}

theorem StreamIn.Good.closed (h : input.Good) (hstat : input.streamStatus = .standby) : input.isOpen = false := by
  rcases Bool.eq_false_or_eq_true input.isOpen with hopen | hclosed
  · have hready := h.1.2.1 hopen
    rw [hstat] at hready
    cases hready
  · exact hclosed

theorem StreamIn.Good.isOpen (h : input.Good) (hrecfg : input.pcmReconfig = false)
    (hstat : input.streamStatus.aboveReady) : input.isOpen := by
  rcases h.1.2.2 hstat with hopen | hrecfg'
  · exact hopen
  · rw [hrecfg] at hrecfg'
    cases hrecfg'

theorem StreamIn.good_standby (hstat : input.streamStatus = .standby) (hclosed : input.isOpen = false) :
    input.Good := by
  refine ⟨⟨?_, ?_, ?_⟩, ?_⟩
  · rw [hstat]
    exact nofun
  · rw [hclosed]
    exact nofun
  · rw [hstat]
    exact nofun
  · rw [hstat, hclosed]
    exact fun _ => rfl

theorem StreamIn.good_open (hstat : input.streamStatus.aboveReady) (hopen : input.isOpen) : input.Good := by
  refine ⟨⟨?_, fun _ => hstat, fun _ => Or.inl hopen⟩, fun _ => hstat.trans hopen.symm⟩
  intro hready
  rw [hready] at hstat
  cases hstat

variable {data : Bool}

theorem Good.readData (h : Good s) (hinput : s.ins a = some input)
    (hopen : input.streamStatus.aboveReady → input.isOpen)
    (hs : s.readData env a data = some s') : Good s' := by
  obtain ⟨input', hinput', hs⟩ := unbind hs
  cases hinput.symm.trans hinput'
  split at hs
  · rename_i hidle
    cases hs
    rw [proxyUseCapture_eq hinput (hopen (by rw [hidle.1]; rfl))]
    exact h
  · have hstarted : ∀ input', s.ins a = some input' → input' = input :=
      fun _ h' => Option.some.inj (h'.symm.trans hinput)
    by_cases hidle : input.streamStatus = .idle
    · have hisOpen := hopen (by rw [hidle]; rfl)
      have hplaying : Good (s.setInStatus a .playing) := by
        refine h.modifyIn fun input' hinput' _ => ?_
        cases hstarted input' hinput'
        exact StreamIn.good_open rfl hisOpen
      have hself : (s.setInStatus a .playing).ins a = some { input with streamStatus := .playing } :=
        modifyIn_self hinput
      simp only [State.startReading, hidle, if_true, proxyUseCapture_eq hinput hisOpen] at hs
      split at hs
      · cases hs
        rw [proxyUseCapture_eq hself hisOpen]
        exact hplaying
      · cases hs
        exact hplaying
    · simp only [State.startReading, hidle, if_false, false_or] at hs
      split at hs
      · rename_i hdata
        cases hs
        rw [proxyUseCapture_eq hinput (hopen (by rw [hdata.1]; rfl))]
        exact h
      · cases hs
        exact h

theorem Good.stopForReconfig (h : Good s) (hinput : s.ins a = some input) : Good ((s.useIn a).stopForReconfig a input) ∧
      ∃ input', ((s.useIn a).stopForReconfig a input).ins a = some input' ∧ input'.pcmReconfig = false ∧
        (input'.streamStatus = .standby → input.streamStatus = .standby ∨ input.pcmReconfig) := by
  have hused : Good (s.useIn a) := h.modifyIn fun _ _ hok => hok
  have hself : (s.useIn a).ins a = some { input with released := false } := modifyIn_self hinput
  unfold State.stopForReconfig
  split
  · rename_i hrecfg
    have hstopped := modifyIn_self (f := fun input => { input with pcmReconfig := false })
      (modifyIn_self (f := fun input : StreamIn =>
        if input.streamStatus ≠ .standby then { input with streamStatus := .standby, isOpen := false } else input)
          hself)
    refine ⟨(((hused.goodButIn a).modifyIn _).modifyIn _).good ?_, _, hstopped, rfl, fun _ => Or.inr hrecfg⟩
    intro input' hinput'
    cases hstopped.symm.trans hinput'
    dsimp only
    split
    · exact StreamIn.good_standby rfl rfl
    · rename_i hstby
      have hstby := not_not.mp hstby
      exact StreamIn.good_standby hstby ((h.ins a input hinput).closed hstby)
  · rename_i hrecfg
    exact ⟨hused, _, hself, Bool.eq_false_of_not_eq_true hrecfg, Or.inl⟩

theorem GoodButIn.reconfigForRead (h : GoodButIn a s) {input current : StreamIn} (hself : s.ins a = some current)
    (hs : s.reconfigForRead b env a input = some s') :
    GoodButIn a s' ∧ ∃ input', s'.ins a = some input' ∧ input'.isOpen = current.isOpen ∧
      input'.pcmReconfig = current.pcmReconfig := by
  obtain ⟨t, hsame, rfl | ⟨usage, -, type, -, rfl⟩⟩ := State.reconfigForRead_spec hs
  · exact ⟨h.sameStreams hsame.sameStreams, current, hsame.sameStreams.ins_eq ▸ hself, rfl, rfl⟩
  · exact ⟨(h.sameStreams hsame.sameStreams).modifyIn _, _, modifyIn_self (hsame.sameStreams.ins_eq ▸ hself), rfl, rfl⟩

theorem Good.openCapture (h : GoodButIn a s) (hinput : s.ins a = some input)
    (hclosed : input.isOpen = false) (hok : env.openOk) :
    Good ((s.proxyOpenCapture env a).setInStatus a .idle) ∧
      ((s.proxyOpenCapture env a).setInStatus a .idle).ins a =
        some { input with isOpen := true, streamStatus := .idle } := by
  rw [proxyOpenCapture_eq hinput hclosed, if_pos hok]
  have hself := modifyIn_self (f := fun input => { input with streamStatus := .idle })
    (modifyIn_self (f := fun input => { input with isOpen := true }) hinput)
  refine ⟨((h.modifyIn _).modifyIn _).good ?_, hself⟩
  intro input' hinput'
  cases hself.symm.trans hinput'
  exact StreamIn.good_open rfl rfl

theorem Good.inRead (h : Good s) (hopens : OpensOk s (.inRead a data, env))
    (hs : s.inRead b env a data = some s') : Good s' := by
  obtain ⟨input, hinput, hs⟩ := unbind hs
  obtain ⟨input', hinput', hs⟩ := unbind hs
  obtain ⟨hstopped, current, hcur, hrecfg, hstby⟩ := h.stopForReconfig hinput
  cases hinput'.symm.trans hcur
  split at hs
  · rename_i hstat
    have hopen : env.openOk := by
      refine hopens ?_
      rcases hstby hstat with hstby | hrecfg
      · simp [hinput, hstby]
      · simp [hinput, hrecfg]
    obtain ⟨configured, hcfg, hs⟩ := unbind hs
    obtain ⟨routed, hrouted, hs⟩ := unbind hs
    have hclosed := (hstopped.ins a input' hcur).closed hstat
    obtain ⟨hbut, ready, hready, hreadyOpen, -⟩ :=
      ((hstopped.goodButIn a).modifyIn _).reconfigForRead (modifyIn_self hcur) hcfg
    have hsame := (State.routeForRead_rerouted hrouted).sameStreams
    have hact : GoodButIn a { configured with activeInput := some a } := ⟨hbut.outs, hbut.ins, hbut.misused⟩
    have hself : routed.ins a = some ready := by
      rw [hsame.ins_eq]
      exact hready
    obtain ⟨hgood, hidle⟩ := Good.openCapture (hact.sameStreams hsame) hself (hreadyOpen.trans hclosed) hopen
    simp only [hopen, if_true] at hs
    exact hgood.readData hidle (fun _ => rfl) hs
  · exact hstopped.readData hcur ((hstopped.ins a input' hcur).isOpen hrecfg) hs

theorem Good.inStandby (h : Good s) (hs : s.inStandby b env a = some s') : Good s' := by
  obtain ⟨input, hinput, hcases⟩ := State.inStandby_cases hs
  have hrel : Good (s.modifyIn a fun input => { input with released := true }) := h.modifyIn fun _ _ hok => hok
  rcases hcases with ⟨-, rfl⟩ | ⟨-, unrouted, hunrouted, rfl⟩
  · exact hrel
  · have hclosed : Good (s.closedIn a) := by
      refine (((hrel.goodButIn a).modifyIn _).modifyIn _).good ?_
      intro input' hinput'
      rw [modifyIn_self (modifyIn_self (modifyIn_self hinput))] at hinput'
      cases hinput'
      exact StreamIn.good_standby rfl rfl
    have hunrouted := hclosed.sameStreams (State.unrouteForInStandby_rerouted hunrouted).sameStreams
    exact ⟨hunrouted.outs, hunrouted.ins, hunrouted.misused⟩

theorem StreamIn.Good.isOpen_of_mmap (h : input.Good) (htype : input.streamType = .captureMmap)
    (hstat : input.streamStatus.aboveReady) : input.isOpen :=
  (h.2 htype).symm.trans hstat

theorem Good.inStop (h : Good s) (hs : s.inStop a = some s') : Good s' := by
  obtain ⟨input, hinput, hs⟩ := unbind hs
  split at hs
  · rename_i hplaying
    cases hs
    refine h.modifyIn fun input' hinput' hok => ?_
    cases hinput.symm.trans hinput'
    exact StreamIn.good_open rfl (hok.isOpen_of_mmap hplaying.1 (by rw [hplaying.2]; rfl))
  · cases hs
    exact h

theorem Good.inStart (h : Good s) (hs : s.inStart env a = some s') : Good s' := by
  obtain ⟨input, hinput, hs⟩ := unbind hs
  split at hs
  · rename_i hidle
    have hopen : input.isOpen = true := (h.ins a input hinput).isOpen_of_mmap hidle.1 (by rw [hidle.2]; rfl)
    simp only [proxyUseCapture_eq hinput hopen] at hs
    split at hs
    · cases hs
      refine h.modifyIn fun input' hinput' _ => ?_
      cases hinput.symm.trans hinput'
      exact StreamIn.good_open rfl hopen
    · cases hs
      exact h
  · cases hs
    exact h

theorem Good.inCreateMmapBuffer (h : Good s) {valid : Bool} (hs : s.inCreateMmapBuffer b env a valid = some s') :
    Good s' := by
  obtain ⟨input, hinput, hs⟩ := unbind hs
  split at hs
  · rename_i hstby
    obtain ⟨routed, hrouted, hs⟩ := unbind hs
    cases hs
    have hsame : SameStreams b ((s.useIn a).setInStatus a .ready) routed := by
      split at hrouted
      · cases hrouted
        exact .refl _
      · exact (State.setRouteCapture_rerouted hrouted).sameStreams
    have hbut : GoodButIn a routed := (((h.goodButIn a).modifyIn _).modifyIn _).sameStreams hsame
    have hstrm : routed.ins a = some { input with released := false, streamStatus := .ready } := by
      rw [hsame.ins_eq]
      exact modifyIn_self (modifyIn_self hinput)
    have hclosed := (h.ins a input hinput).closed hstby.2.2
    cases hok : env.openOk with
    | true => exact (Good.openCapture hbut hstrm hclosed hok).1
    | false =>
      rw [proxyOpenCapture_eq hstrm hclosed, hok]
      refine (hbut.modifyIn _).good ?_
      intro input' hinput'
      rw [modifyIn_self hstrm] at hinput'
      cases hinput'
      exact StreamIn.good_standby rfl hclosed
  · cases hs
    exact h

theorem good_steady (b : Build) : Steady b Good where
  core h hcore hmisused := by
    simp only [State.core, Prod.mk.injEq] at hcore
    exact h.congr hcore.1.1 hcore.1.2 hmisused
  routed h hs := h.sameStreams hs
  updated h _ changed := h.updateStreams changed
  touchOut h a f hf := by
    refine h.modifyOut fun out _ hok => ?_
    rwa [StreamOut.StatusOk, (hf out).1, (hf out).2]
  touchIn h a f hf := by
    refine h.modifyIn fun input _ hok => ?_
    obtain ⟨htype, hstat, hopen, hrecfg⟩ := hf input
    rw [StreamIn.Good, StreamIn.StatusOk, htype, hstat, hopen]
    exact ⟨⟨hok.1.1, hok.1.2.1, fun habove => (hok.1.2.2 habove).imp_right hrecfg⟩, hok.2⟩
  stopped h a := by
    refine h.modifyIn fun input _ hok => ?_
    split
    · exact StreamIn.good_standby rfl rfl
    · exact hok

end

section
variable {b : Build} {env : Env} {s s' : State} {a : Addr}

section
variable (h : Good s)
include h

theorem Good.updateOut {out : Option StreamOut} (houts : s'.outs = update s.outs a out)
    (hins : s'.ins = s.ins) (hmisused : s'.misused = s.misused) (hout : ∀ o ∈ out, o.StatusOk) : Good s' := by
  refine ⟨?_, hins ▸ h.ins, hmisused.trans h.misused⟩
  intro p o hp
  rw [houts] at hp
  rcases eq_or_ne p a with rfl | hne
  · rw [update_self] at hp
    exact hout o hp
  · rw [update_of_ne hne] at hp
    exact h.outs p o hp

theorem Good.updateIn {input : Option StreamIn} (houts : s'.outs = s.outs)
    (hins : s'.ins = update s.ins a input) (hmisused : s'.misused = s.misused) (hinput : ∀ i ∈ input, i.Good) :
    Good s' := by
  refine ⟨houts ▸ h.outs, ?_, hmisused.trans h.misused⟩
  intro p i hp
  rw [hins] at hp
  rcases eq_or_ne p a with rfl | hne
  · rw [update_self] at hp
    exact hinput i hp
  · rw [update_of_ne hne] at hp
    exact h.ins p i hp

theorem Good.removeOut (houts : s'.outs = update s.outs a none) (hins : s'.ins = s.ins)
    (hmisused : s'.misused = s.misused) : Good s' := by
  refine h.updateOut houts hins hmisused ?_
  intro o ho
  cases ho

theorem Good.removeIn (houts : s'.outs = s.outs) (hins : s'.ins = update s.ins a none)
    (hmisused : s'.misused = s.misused) : Good s' := by
  refine h.updateIn houts hins hmisused ?_
  intro i hi
  cases hi

theorem Good.claimOutput {type : StreamType} (hs : s.claimOutput a type = some s') : Good s' := by
  unfold State.claimOutput at hs
  split at hs
  · cases hs
    split
    · exact h.congr rfl rfl rfl
    · exact h
  · split at hs
    · cases hs
      exact h.congr rfl rfl rfl
    · cases hs
  · cases hs
    split
    · exact h.congr rfl rfl rfl
    · exact h
  · cases hs
    exact h

theorem Good.initVoice (type : StreamType) : Good (s.initVoice env type) := by
  unfold State.initVoice
  split
  · exact h.congr rfl rfl rfl
  · exact h

theorem Good.unclaimOutput (type : StreamType) : Good (s.unclaimOutput type) := by
  unfold State.unclaimOutput
  split
  · exact h.congr rfl rfl rfl
  · exact h.congr rfl rfl rfl
  · exact h

end

variable {devices : Devices} {flags : Flags}

theorem Good.openOutput (h : Good s) (hs : s.openOutput b env a devices flags = some s') : Good s' := by
  unfold State.openOutput at hs
  split at hs
  · cases hs
  · split at hs
    · cases hs
      exact h
    · rename_i type usage _
      dsimp only at hs
      split at hs
      · cases hs
        exact h.initVoice type
      · rename_i claimed hclaimed
        have hgood := (h.initVoice type).claimOutput hclaimed
        split at hs
        · cases hs
          refine hgood.updateOut rfl rfl rfl ?_
          intro out hout
          cases hout
          exact ⟨nofun, rfl⟩
        · cases hs
          exact hgood.unclaimOutput type

theorem Good.closeOutput (h : Good s) (hs : s.closeOutput b env a = some s') : Good s' := by
  obtain ⟨standby, hstby, hs⟩ := unbind hs
  obtain ⟨out, -, hs⟩ := unbind hs
  cases hs
  exact (h.outStandby hstby).removeOut rfl rfl rfl

variable {sampleRate : Nat}

theorem Good.placeInput (h : Good s) {input : StreamIn} (hstat : input.streamStatus = .standby)
    (hclosed : input.isOpen = false)
    (hs : s.placeInput b env a input sampleRate = some (some s')) : Good s' := by
  obtain ⟨fmState, type, usage, hsame⟩ := State.placeInput_spec hs
  have hput : Good ({ s with fmState }.putInput a input type usage) := by
    refine h.updateIn rfl rfl rfl ?_
    intro i hi
    cases hi
    exact StreamIn.good_standby hstat hclosed
  exact hput.sameStreams hsame.sameStreams

theorem Good.openInput (h : Good s) {source : Source}
    (hs : s.openInput b env a devices flags source sampleRate = some s') : Good s' := by
  unfold State.openInput at hs
  split at hs
  · cases hs
  · obtain ⟨placed, hplaced, hs⟩ := unbind hs
    cases hs
    split
    · exact h
    · rename_i placed'
      have hgood := h.placeInput rfl rfl hplaced
      split
      · exact hgood.congr rfl rfl rfl
      · exact hgood.removeIn rfl rfl rfl

theorem Good.closeInput (h : Good s) (hs : s.closeInput b env a = some s') : Good s' := by
  obtain ⟨standby, hstby, hs⟩ := unbind hs
  cases hs
  exact (h.inStandby hstby).removeIn rfl rfl rfl

end

section
variable {b : Build} {s s' : State}

theorem Good.step (h : Good s) {input : Op × Env} (hopens : OpensOk s input) (hs : step b s input = some s') :
    Good s' := by
  obtain ⟨op, env⟩ := input
  by_cases hsteers : op.steers
  · exact (good_steady b).step h hsteers hs
  · cases op with
    | openOutput a devices flags => exact h.openOutput hs
    | closeOutput a => exact h.closeOutput hs
    | openInput a devices flags source sampleRate => exact h.openInput hs
    | closeInput a => exact h.closeInput hs
    | outWrite a data => exact h.outWrite hopens hs
    | outStandby a => exact h.outStandby hs
    | outPause a => exact h.setStatusIf hs rfl nofun fun _ hplaying => by rw [hplaying.2.1]; rfl
    | outResume a => exact h.setStatusIf hs rfl nofun fun _ hpaused => by rw [hpaused.2.1]; rfl
    | outFlush a => exact h.setStatusIf hs rfl nofun fun _ hidle => Status.aboveReady_of_aboveIdle hidle.2
    | outStart a => exact h.outStart hs
    | outStop a => exact h.setStatusIf hs rfl nofun fun _ hplaying => by rw [hplaying.2]; rfl
    | outCreateMmapBuffer a valid => exact h.outCreateMmapBuffer hs
    | inRead a data => exact h.inRead hopens hs
    | inStandby a => exact h.inStandby hs
    | inStart a => exact h.inStart hs
    | inStop a => exact h.inStop hs
    | inCreateMmapBuffer a valid => exact h.inCreateMmapBuffer hs
    | setParameters param =>
      cases param with
      | btScoWb on =>
        cases hs
        exact h.congr rfl rfl rfl
      | _ => exact absurd rfl hsteers
    | _ => exact absurd rfl hsteers

theorem good_init : Good init := by
  refine ⟨?_, ?_, rfl⟩
  · intro a out hout
    cases hout
  · intro a input hinput
    cases hinput

theorem Good.statusTellsOpen (h : Good s) : StatusTellsOpen s :=
  ⟨h.outs, fun a input hinput => (h.ins a input hinput).1, h.misused⟩

/-- While no write and no read fails to open its device, the status of a stream tells whether it is open. The `IDLE`
that the callback thread sets at the end of a partial drain is no step here (`Offload`). -/
theorem statusTellsOpen_run {steps : List (Op × Env)} (hopens : EachDefinedStep (step b) OpensOk init steps)
    (h : steps.foldlM (step b) init = some s) : StatusTellsOpen s :=
  (foldlM_keeps_of_eachDefinedStep (fun _ _ _ hgood hopens hs => hgood.step hopens hs) good_init hopens
    h).statusTellsOpen

end

theorem statusTellsOpen_run_playing : ∃ s,
    [openPrimary, (.outWrite 0 true, .usual)].foldlM (step plainBuild) init = some s ∧
      (s.outs 0).map StreamOut.streamStatus = some .playing ∧ StatusTellsOpen s := by
  have hopens : EachDefinedStep (step plainBuild) OpensOk init [openPrimary, (.outWrite 0 true, .usual)] :=
    ⟨trivial, fun _ _ => ⟨fun _ => rfl, fun _ _ => trivial⟩⟩
  exact ⟨_, rfl, rfl, statusTellsOpen_run hopens rfl⟩

theorem not_statusTellsOpen_failedWrite : ∃ s,
    [openPrimary, (.outWrite 0 true, { Env.usual with openOk := false }), (.outWrite 0 true, .usual)].foldlM
        (step plainBuild) init = some s ∧
      (s.outs 0).map StreamOut.streamStatus = some .ready ∧ ¬StatusTellsOpen s := by
  refine ⟨_, rfl, rfl, ?_⟩
  intro h
  exact (h.outs 0 _ rfl).1 rfl

end ExynosHal.Audio
