import ExynosHal.Audio.RouteUse

/-! # The users of a route: capture

The functions for inputs keep the capture path in use. A standby does so only if another
stream is left wherever `in_standby` itself does not unroute.
-/

namespace ExynosHal.Audio
open Library.Run (unbind)
open Function (update_of_ne update_self)
open State (modifyIn_self)

section
variable {b : Build} {env : Env} {s s' : State} {a : Addr}

theorem setRouteCapture_playback {set : Bool} {force : Force} (hap : s.isAPCallMode = false)
    (h : s.setRouteCapture b env a set force = some s') : s'.playback = s.playback := by
  obtain ⟨c, rfl, -⟩ := State.setRouteCapture_cases hap h
  rfl

variable {input : StreamIn}

theorem reconfigForRead_playback (hap : s.isAPCallMode = false)
    (h : s.reconfigForRead b env a input = some s') : s'.playback = s.playback := by
  unfold State.reconfigForRead at h
  split at h
  · obtain ⟨t, ht, h⟩ := unbind h
    obtain ⟨usage, -, h⟩ := unbind h
    cases h
    split at ht
    · cases ht
      rfl
    · have hplay := setRouteCapture_playback hap ht
      exact hplay
  · cases h
    rfl

theorem routeForRead_playback (hap : s.isAPCallMode = false) (h : s.routeForRead b env a = some s') :
    s'.playback = s.playback := by
  obtain ⟨input, -, h⟩ := unbind h
  split at h
  · split at h
    · cases h
      rfl
    · split at h
      · cases h
        rfl
      · exact setRouteCapture_playback hap h
  · cases h
    rfl

structure StaysActiveIn (a : Addr) (s s' : State) : Prop where
  only : OnlyIn a s s'
  playback : s'.playback = s.playback
  active : ∀ input, s.ins a = some input → input.released = false → input.streamStatus ≠ .standby →
    ∃ input', s'.ins a = some input' ∧ input'.released = false ∧ input'.streamStatus ≠ .standby

theorem StaysActiveIn.of_streams (houts : s'.outs = s.outs) (hins : s'.ins = s.ins) (hmood : s'.mood = s.mood)
    (hplay : s'.playback = s.playback) : StaysActiveIn a s s' :=
  ⟨⟨hmood, houts, fun p _ => congrFun hins p⟩, hplay,
    fun input hinput hrel hstat => ⟨input, (congrFun hins a).trans hinput, hrel, hstat⟩⟩

variable {data : Bool}

theorem readData_staysActive (h : s.readData env a data = some s') : StaysActiveIn a s s' := by
  obtain ⟨input, hinput, h⟩ := unbind h
  have hstarted : StaysActiveIn a s (s.startReading a input) := by
    unfold State.startReading
    split
    · refine ⟨⟨rfl, rfl, fun p hp => update_of_ne hp _ _⟩, rfl, ?_⟩
      intro input' hinput' hrel _
      exact ⟨{ input' with streamStatus := .playing }, modifyIn_self hinput', hrel, nofun⟩
    · exact .of_streams rfl rfl rfl rfl
  dsimp only at h
  split at h
  · cases h
    exact .of_streams rfl rfl rfl rfl
  · split at h
    · cases h
      exact ⟨⟨hstarted.only.mood, hstarted.only.outs, hstarted.only.ins⟩, hstarted.playback, hstarted.active⟩
    · cases h
      exact hstarted

theorem proxyOpenCapture_staysActive (s : State) (env : Env) (a : Addr) :
    StaysActiveIn a s (s.proxyOpenCapture env a) := by
  unfold State.proxyOpenCapture
  dsimp only
  split
  · refine ⟨⟨rfl, rfl, fun p hp => update_of_ne hp _ _⟩, rfl, ?_⟩
    intro input hinput hrel hstat
    exact ⟨{ input with isOpen := true }, modifyIn_self hinput, hrel, hstat⟩
  · exact .of_streams rfl rfl rfl rfl

theorem stopForReconfig_spec (hinput : s.ins a = some input) : OnlyIn a s ((s.useIn a).stopForReconfig a input) ∧
      ((s.useIn a).stopForReconfig a input).playback = s.playback ∧
        ∃ input', ((s.useIn a).stopForReconfig a input).ins a = some input' ∧ input'.released = false := by
  have hused : OnlyIn a s (s.useIn a) := .modifyIn s a _
  have hself : (s.useIn a).ins a = some { input with released := false } := modifyIn_self hinput
  unfold State.stopForReconfig
  split
  · refine ⟨(hused.trans (.modifyIn _ a _)).trans (.modifyIn _ a _), rfl, _, modifyIn_self (modifyIn_self hself), ?_⟩
    dsimp only
    split <;> rfl
  · exact ⟨hused, rfl, _, hself, rfl⟩

theorem inRead_spec (h : s.inRead b env a data = some s') :
    OnlyIn a s s' ∧ (s.isAPCallMode = false → s'.playback = s.playback) ∧
      ∃ input, s'.ins a = some input ∧ input.released = false ∧ input.streamStatus ≠ .standby := by
  obtain ⟨input, hinput, h⟩ := unbind h
  obtain ⟨input', hinput', h⟩ := unbind h
  obtain ⟨hstopped, hstoppedPlay, current, hcur, hrel⟩ := stopForReconfig_spec hinput
  cases hinput'.symm.trans hcur
  split at h
  · obtain ⟨configured, hcfg, h⟩ := unbind h
    obtain ⟨routed, hrouted, h⟩ := unbind h
    have hready : OnlyIn a s (((s.useIn a).stopForReconfig a input).setInStatus a .ready) :=
      hstopped.trans (.modifyIn _ a _)
    have hap : ∀ {t : State}, t.mood = s.mood → s.isAPCallMode = false → t.isAPCallMode = false := by
      intro t hmood hap
      rw [State.isAPCallMode, show t.amode = s.amode from congrArg Prod.fst hmood]
      exact hap
    obtain ⟨hcfgOnly, hcfgIn⟩ : OnlyIn a s configured ∧ ∃ input, configured.ins a = some input ∧
        input.released = false ∧ input.streamStatus ≠ .standby := by
      have hself : (((s.useIn a).stopForReconfig a input).setInStatus a .ready).ins a =
          some { input' with streamStatus := .ready } := modifyIn_self hcur
      obtain ⟨t, ht, rfl | ⟨usage, -, type, -, rfl⟩⟩ := State.reconfigForRead_spec hcfg
      · refine ⟨hready.trans (ht.sameStreams.onlyIn a), _, (congrFun ht.sameStreams.ins_eq a).trans hself, hrel,
          fun hstby => by cases hstby⟩
      · refine ⟨(hready.trans (ht.sameStreams.onlyIn a)).trans (.modifyIn _ a _), _,
          modifyIn_self ((congrFun ht.sameStreams.ins_eq a).trans hself), hrel, fun hstby => by cases hstby⟩
    have hcfgPlay : s.isAPCallMode = false → configured.playback = s.playback := fun hs =>
      (reconfigForRead_playback (hap hready.mood hs) hcfg).trans hstoppedPlay
    have hsame := (State.routeForRead_rerouted hrouted).sameStreams
    have hroutedOnly : OnlyIn a s routed := hcfgOnly.trans
      ⟨hsame.mood, hsame.outs_eq, fun p _ => congrFun hsame.ins_eq p⟩
    have hroutedPlay : s.isAPCallMode = false → routed.playback = s.playback := fun hs =>
      (routeForRead_playback (s := { configured with activeInput := some a }) (hap hcfgOnly.mood hs) hrouted).trans
        (hcfgPlay hs)
    obtain ⟨ready, hreadyIn, hreadyRel, hreadyStat⟩ := hcfgIn
    have hopened := proxyOpenCapture_staysActive routed env a
    obtain ⟨open', hopenIn, hopenRel, hopenStat⟩ :=
      hopened.active ready ((congrFun hsame.ins_eq a).trans hreadyIn) hreadyRel hreadyStat
    dsimp only at h
    split at h
    · have hread := readData_staysActive h
      have hidle : OnlyIn a (routed.proxyOpenCapture env a) ((routed.proxyOpenCapture env a).setInStatus a .idle) :=
        .modifyIn _ a _
      refine ⟨((hroutedOnly.trans hopened.only).trans hidle).trans hread.only,
        fun hs => (hread.playback.trans hopened.playback).trans (hroutedPlay hs), ?_⟩
      exact hread.active { open' with streamStatus := .idle } (modifyIn_self hopenIn) hopenRel fun hstby => by
        cases hstby
    · cases h
      exact ⟨hroutedOnly.trans hopened.only, fun hs => hopened.playback.trans (hroutedPlay hs), open', hopenIn,
        hopenRel, hopenStat⟩
  · rename_i hact
    have hread := readData_staysActive h
    exact ⟨hstopped.trans hread.only, fun _ => hread.playback.trans hstoppedPlay,
      hread.active input' hcur hrel hact⟩

theorem RouteInv.inRead (h : RouteInv s) (hs : s.inRead b env a data = some s') : RouteInv s' := by
  obtain ⟨honly, hplay, input, hinput, hrel, hstat⟩ := inRead_spec hs
  refine h.kept (Kept.inRead hs) (h.released.onlyIn honly hinput ?_) ?_
  · rw [hrel]
    exact nofun
  · intro hquiet
    replace hquiet : s.Quiet := honly.mood.symm.trans hquiet
    exact ⟨(h.used hquiet).1.congr (hplay hquiet.apCall) honly.outs, fun _ => ⟨a, input, hinput, Or.inl hstat⟩⟩

theorem inStandby_spec (h : s.inStandby b env a = some s') :
    OnlyIn a s s' ∧ s'.playback = s.playback ∧ ∃ input, s'.ins a = some input ∧ input.streamStatus = .standby := by
  obtain ⟨input, hinput, ⟨hstby, rfl⟩ | ⟨-, unrouted, hunrouted, rfl⟩⟩ := State.inStandby_cases h
  · exact ⟨.modifyIn s a _, rfl, _, modifyIn_self hinput, hstby⟩
  · have hclosed : OnlyIn a s (s.closedIn a) :=
      ((OnlyIn.modifyIn s a _).trans (.modifyIn _ a _)).trans (.modifyIn _ a _)
    have hsame := (State.unrouteForInStandby_rerouted hunrouted).sameStreams
    have hself : unrouted.ins a = some { input with released := true, isOpen := false, streamStatus := .standby } := by
      rw [hsame.ins_eq]
      exact modifyIn_self (modifyIn_self (modifyIn_self hinput))
    have honly := hclosed.trans (hsame.onlyIn a)
    refine ⟨⟨honly.mood, honly.outs, honly.ins⟩, ?_, _, hself, rfl⟩
    unfold State.unrouteForInStandby at hunrouted
    split at hunrouted
    · cases State.setRouteCapture_unroute hunrouted
      rfl
    · cases hunrouted
      rfl

theorem inStandby_used (hquiet : s.Quiet) (hused : CaptureUsed s) (hleaves : s.LeavesUser b a)
    (h : s.inStandby b env a = some s') (hrouted : s'.capture.isRouted) :
    ∃ p ≠ a, ∃ other, s'.ins p = some other ∧ other.Uses := by
  obtain ⟨honly, -, -⟩ := inStandby_spec h
  suffices hbefore : ∃ p ≠ a, ∃ other ∈ s.ins p, other.Uses by
    obtain ⟨p, hne, other, hother, huses⟩ := hbefore
    exact ⟨p, hne, other, (honly.ins p hne).trans hother, huses⟩
  obtain ⟨input, hinput, h⟩ := unbind h
  split at h
  · rename_i hact
    obtain ⟨unrouted, hunrouted, h⟩ := unbind h
    cases h
    unfold State.unrouteForInStandby at hunrouted
    split at hunrouted
    · cases State.setRouteCapture_unroute hunrouted
      have huse := (Path.isRouted_unroute hrouted).2
      obtain ⟨p, other, hother, hstat⟩ := exists_active_of_captureInUse (s := ((s.modifyIn a fun input =>
        { input with released := true }).proxyCloseCapture a).setInStatus a .standby) hquiet huse
      have hne : p ≠ a := by
        rintro rfl
        have hself : (((s.modifyIn p fun input => { input with released := true }).proxyCloseCapture p).setInStatus p
            .standby).ins p = some { input with released := true, isOpen := false, streamStatus := .standby } :=
          modifyIn_self (modifyIn_self (modifyIn_self hinput))
        cases hself.symm.trans hother
        exact hstat rfl
      have hclosed : OnlyIn a s
          (((s.modifyIn a fun input => { input with released := true }).proxyCloseCapture a).setInStatus
          a .standby) := ((OnlyIn.modifyIn s a _).trans (.modifyIn _ a _)).trans (.modifyIn _ a _)
      exact ⟨p, hne, other, (hclosed.ins p hne).symm.trans hother, Or.inl hstat⟩
    · rename_i hskipped
      cases hunrouted
      -- the path is routed, so it is a hotword stream
      have hhotword : b.sthalInterface ∧ input.streamType = .captureHotword := by
        have hrouted' : s.capture.isRouted := hrouted
        simp only [State.setInStatus, State.proxyCloseCapture, State.modifyIn, hrouted', Bool.and_true, Bool.or_eq_true,
          Bool.not_eq_true', bne_iff_ne, not_or, not_not, Bool.not_eq_false] at hskipped
        exact hskipped
      exact hleaves hquiet hrouted input hinput (Or.inl hact) (Or.inr hhotword)
  · rename_i hstby
    cases h
    have hrouted' : s.capture.isRouted := hrouted
    obtain ⟨p, user, huser, huses⟩ := hused hrouted'
    rcases eq_or_ne p a with rfl | hne
    · cases hinput.symm.trans huser
      exact hleaves hquiet hrouted' input hinput huses (Or.inl (not_not.mp hstby))
    · exact ⟨p, hne, user, huser, huses⟩

theorem RouteInv.inStandby (h : RouteInv s) (hleaves : s.LeavesUser b a) (hs : s.inStandby b env a = some s') :
    RouteInv s' := by
  obtain ⟨honly, hplay, input, hinput, hstat⟩ := inStandby_spec hs
  refine h.kept (Kept.inStandby hs) (h.released.onlyIn honly hinput fun _ => hstat) ?_
  intro hquiet
  replace hquiet : s.Quiet := honly.mood.symm.trans hquiet
  refine ⟨(h.used hquiet).1.congr hplay honly.outs, ?_⟩
  intro hrouted
  obtain ⟨p, -, other, hother, huses⟩ := inStandby_used hquiet (h.used hquiet).2 hleaves hs hrouted
  exact ⟨p, other, hother, huses⟩

theorem RouteInv.closeInput (h : RouteInv s) (hleaves : s.LeavesUser b a) (hs : s.closeInput b env a = some s') :
    RouteInv s' := by
  obtain ⟨standby, hstby, hs⟩ := unbind hs
  cases hs
  have hinv := h.inStandby hleaves hstby
  obtain ⟨honly, hplay, -⟩ := inStandby_spec hstby
  refine ⟨hinv.listedOut, ?_, ⟨hinv.released.outs, ?_⟩, ?_⟩
  · intro p hp
    dsimp only at hp ⊢
    rcases eq_or_ne p a with rfl | hne
    · rw [update_self] at hp
      cases hp
    · rw [update_of_ne hne] at hp
      exact List.mem_filter.mpr ⟨hinv.listedIn p hp, decide_eq_true hne⟩
  · intro p input hinput
    dsimp only at hinput
    rcases eq_or_ne p a with rfl | hne
    · rw [update_self] at hinput
      cases hinput
    · rw [update_of_ne hne] at hinput
      exact hinv.released.ins p input hinput
  · intro hquiet
    replace hquiet : s.Quiet := honly.mood.symm.trans hquiet
    refine ⟨((h.used hquiet).1.congr hplay honly.outs).congr rfl rfl, ?_⟩
    intro hrouted
    obtain ⟨p, hne, other, hother, huses⟩ := inStandby_used hquiet (h.used hquiet).2 hleaves hstby hrouted
    exact ⟨p, other, (update_of_ne hne _ _).trans hother, huses⟩

structure RetouchedIn (a : Addr) (s s' : State) : Prop where
  only : OnlyIn a s s'
  playback : s'.playback = s.playback
  capture : s'.capture = s.capture
  input : ∀ input, s.ins a = some input → ∃ input', s'.ins a = some input' ∧ input'.streamStatus = input.streamStatus ∧
    (input.pcmReconfig → input'.pcmReconfig) ∧
    (input'.released = input.released ∨ input'.released = false)

theorem RetouchedIn.refl (a : Addr) (s : State) : RetouchedIn a s s :=
  ⟨.refl a s, rfl, rfl, fun input hinput => ⟨input, hinput, rfl, id, Or.inl rfl⟩⟩

theorem RetouchedIn.trans {t : State} (h : RetouchedIn a s t) (h' : RetouchedIn a t s') : RetouchedIn a s s' := by
  refine ⟨h.only.trans h'.only, h'.playback.trans h.playback, h'.capture.trans h.capture, ?_⟩
  intro input hinput
  obtain ⟨input', hinput', hstat, hrecfg, hrel⟩ := h.input input hinput
  obtain ⟨input'', hinput'', hstat', hrecfg', hrel'⟩ := h'.input input' hinput'
  refine ⟨input'', hinput'', hstat'.trans hstat, fun h => hrecfg' (hrecfg h), ?_⟩
  rcases hrel' with hsame | hused
  · rw [hsame]
    exact hrel
  · exact Or.inr hused

theorem RetouchedIn.modifyIn (s : State) (a : Addr) {f : StreamIn → StreamIn}
    (hf : ∀ input, (f input).streamStatus = input.streamStatus ∧ (input.pcmReconfig → (f input).pcmReconfig) ∧
      ((f input).released = input.released ∨ (f input).released = false)) : RetouchedIn a s (s.modifyIn a f) :=
  ⟨.modifyIn s a f, rfl, rfl, fun input hinput => ⟨f input, modifyIn_self hinput, hf input⟩⟩

theorem RetouchedIn.released (h : RetouchedIn a s s') (hinput : s.ins a = some input)
    (hreleased : ReleasedStandby s) : ReleasedStandby s' := by
  obtain ⟨input', hinput', hstat, -, hrel⟩ := h.input input hinput
  refine hreleased.onlyIn h.only hinput' ?_
  intro htrue
  rcases hrel with hsame | hused
  · rw [hstat]
    exact hreleased.ins a input hinput (hsame.symm.trans htrue)
  · rw [hused] at htrue
    cases htrue

theorem RetouchedIn.uses (h : RetouchedIn a s s') {p : Addr} {user : StreamIn} (huser : s.ins p = some user)
    (huses : user.Uses) : ∃ user', s'.ins p = some user' ∧ user'.Uses := by
  rcases eq_or_ne p a with rfl | hne
  · obtain ⟨input', hinput', hstat, hrecfg, hrel⟩ := h.input user huser
    refine ⟨input', hinput', ?_⟩
    rcases huses with hact | ⟨hmarked, hunrel⟩
    · exact Or.inl (hstat ▸ hact)
    · refine Or.inr ⟨hrecfg hmarked, ?_⟩
      rcases hrel with hsame | hused
      · exact hsame.trans hunrel
      · exact hused
  · exact ⟨user, (h.only.ins p hne).trans huser, huses⟩

theorem RetouchedIn.used (h : RetouchedIn a s s') (hused : PlaybackUsed s ∧ CaptureUsed s) :
    PlaybackUsed s' ∧ CaptureUsed s' := by
  refine ⟨hused.1.congr h.playback h.only.outs, ?_⟩
  intro hrouted
  rw [h.capture] at hrouted
  obtain ⟨p, user, huser, huses⟩ := hused.2 hrouted
  obtain ⟨user', huser', huses'⟩ := h.uses huser huses
  exact ⟨p, user', huser', huses'⟩

variable {devices : Devices}

theorem updateCaptureStream_retouched (h : s.updateCaptureStream b a input devices = some s') : RetouchedIn a s s' := by
  obtain ⟨cur, -, h⟩ := unbind h
  obtain ⟨new, -, h⟩ := unbind h
  dsimp only at h
  split at h
  · cases h
    exact .modifyIn s a fun _ => ⟨rfl, fun _ => rfl, Or.inl rfl⟩
  · cases h
    exact .refl a s

variable {source : Source}

theorem RouteInv.inSetSource (h : RouteInv s) (hs : s.inSetSource b a source = some s') : RouteInv s' := by
  have hkept : Kept b s s' := (Kept.steady s).inSetSource (.refl s) hs
  obtain ⟨input, hinput, hs⟩ := unbind hs
  have htouched : RetouchedIn a s s' → RouteInv s' := fun ht =>
    h.kept hkept (ht.released hinput h.released) fun hquiet => ht.used (h.used (ht.only.mood.symm.trans hquiet))
  split at hs
  · cases hs
    exact h
  · split at hs
    · cases hs
      exact h
    · split at hs
      · split at hs
        · obtain ⟨usage, -, hs⟩ := unbind hs
          cases hs
          exact htouched (.modifyIn s a fun _ => ⟨rfl, id, Or.inl rfl⟩)
        · cases hs
          exact htouched (.modifyIn s a fun _ => ⟨rfl, id, Or.inl rfl⟩)
      · cases hs
        exact h

theorem setRouteCapture_used (hquiet : s.Quiet) (hplay : PlaybackUsed s)
    (huser : ∃ p input, s.ins p = some input ∧ input.Uses) (h : s.setRouteCapture b env a true .nonForceRoute =
      some s') :
    PlaybackUsed s' ∧ CaptureUsed s' := by
  obtain ⟨c, rfl, -⟩ := State.setRouteCapture_cases hquiet.apCall h
  exact ⟨hplay.congr rfl rfl, fun _ => huser⟩

theorem RouteInv.inSetRouting (h : RouteInv s) (hs : s.inSetRouting b env a devices = some s') : RouteInv s' := by
  have hkept : Kept b s s' := (Kept.steady s).inSetRouting (.refl s) hs
  obtain ⟨input, hinput, hs⟩ := unbind hs
  split at hs
  · cases hs
    exact h
  · have hused : RetouchedIn a s (s.useIn a) := .modifyIn s a fun _ => ⟨rfl, id, Or.inr rfl⟩
    have htouched : RetouchedIn a s s' → RouteInv s' := fun ht =>
      h.kept hkept (ht.released hinput h.released) fun hquiet => ht.used (h.used (ht.only.mood.symm.trans hquiet))
    dsimp only at hs
    split at hs
    · obtain ⟨updated, hupdated, hs⟩ := unbind hs
      have hdevs : RetouchedIn a s ((s.useIn a).modifyIn a fun input => { input with requestedDevices := devices }) :=
        hused.trans (.modifyIn _ a fun _ => ⟨rfl, id, Or.inl rfl⟩)
      have hupdated' := hdevs.trans (updateCaptureStream_retouched hupdated)
      split at hs
      · rename_i hroute
        obtain ⟨changed, hchanged, hs⟩ := unbind hs
        have hunrel : changed.released = false := by
          obtain ⟨changed', hchanged', -, -, hrel⟩ := (updateCaptureStream_retouched hupdated).input _
            (modifyIn_self (modifyIn_self hinput))
          cases hchanged.symm.trans hchanged'
          rcases hrel with hsame | hfalse
          · exact hsame
          · exact hfalse
        split at hs
        · rename_i hrecfg
          -- the stream is stopped for the change and goes on using the path
          have hself : (updated.stopActiveInput a).ins a = some (if changed.streamStatus ≠ .standby then
              { changed with streamStatus := .standby, isOpen := false } else changed) := modifyIn_self hchanged
          have hstopped : ∃ stopped, (updated.stopActiveInput a).ins a = some stopped ∧ stopped.streamStatus =
            .standby ∧
              stopped.pcmReconfig ∧ stopped.released = false := by
            refine ⟨_, hself, ?_⟩
            split
            · exact ⟨rfl, hrecfg, hunrel⟩
            · rename_i hstby
              exact ⟨not_not.mp hstby, hrecfg, hunrel⟩
          obtain ⟨stopped, hstopped, hstat, hmarked, hstoppedRel⟩ := hstopped
          have honly : OnlyIn a s (updated.stopActiveInput a) := hupdated'.only.trans (.modifyIn _ a _)
          have hsame := (State.setRouteCapture_rerouted hs).sameStreams
          have hreleased := h.released.onlyIn honly hstopped fun _ => hstat
          refine h.kept hkept (hreleased.congr hsame.outs_eq hsame.ins_eq) ?_
          intro hquiet
          replace hquiet : s.Quiet := (hsame.mood.trans honly.mood).symm.trans hquiet
          refine setRouteCapture_used (s := updated.stopActiveInput a) (honly.mood.trans hquiet) ?_
            ⟨a, stopped, hstopped, Or.inr ⟨hmarked, hstoppedRel⟩⟩ hs
          exact (h.used hquiet).1.congr hupdated'.playback honly.outs
        · have hsame := (State.setRouteCapture_rerouted hs).sameStreams
          have hreleased := hupdated'.released hinput h.released
          refine h.kept hkept (hreleased.congr hsame.outs_eq hsame.ins_eq) ?_
          intro hquiet
          replace hquiet : s.Quiet := (hsame.mood.trans hupdated'.only.mood).symm.trans hquiet
          have hupdatedUsed := hupdated'.used (h.used hquiet)
          refine setRouteCapture_used (s := updated) (hupdated'.only.mood.trans hquiet) hupdatedUsed.1 ?_ hs
          -- the path is routed already or the stream is active
          simp only [Bool.and_eq_true, Bool.or_eq_true, bne_iff_ne] at hroute
          rcases hroute.1 with hrouted | hact
          · exact hupdatedUsed.2 hrouted
          · obtain ⟨user, huser, huses⟩ := hupdated'.uses hinput (Or.inl hact)
            exact ⟨a, user, huser, huses⟩
      · cases hs
        exact htouched hupdated'
    · cases hs
      exact htouched hused

theorem setRouteCapture_standby (hinput : s.ins a = some input) (hstat : input.streamStatus = .standby)
    (h : s.setRouteCapture b env a true .nonForceRoute = some s') : ∃ c, s' = s.setCapture c ∧ c.isRouted := by
  obtain ⟨input', hinput', h⟩ := unbind h
  cases hinput.symm.trans hinput'
  have hskip : (s.isAPCallMode && true && input.streamStatus != .standby) = false := by
    rw [hstat]
    exact Bool.and_false _
  simp only [hskip, Bool.false_eq_true, if_false, if_true] at h
  obtain ⟨new, -, h⟩ := unbind h
  cases h
  refine ⟨_, rfl, ?_⟩
  unfold Path.route
  split
  · rename_i hrouted
    split <;> exact hrouted
  · rfl

def PutOnly (a : Addr) (input : StreamIn) (s s' : State) : Prop :=
  ∃ fmState type usage c, s' = ({ s with fmState }.putInput a input type usage).setCapture c ∧
    c.isRouted = s.capture.isRouted ∧ (fmState = s.fmState ∨ fmState = .on)

theorem openRecording_putOnly (hstat : input.streamStatus = .standby)
    (hroutes : input.requestedSource = .camcorder ∨ input.requestedSource = .fmTuner ∧ input.requestedDevices =
      inFmTuner → s.capture.isRouted)
    (h : s.openRecording b env a input = some s') : PutOnly a input s s' := by
  have hroute : ∀ {fmState : FmState} {type : StreamType} {usage : Usage}, s.capture.isRouted →
      fmState = s.fmState ∨ fmState = .on →
      ({ s with fmState }.putInput a input type usage).setRouteCapture b env a true .nonForceRoute = some s' →
        PutOnly a input s s' := by
    intro fmState type usage hrouted hfm h
    have hself : ({ s with fmState }.putInput a input type usage).ins a =
        some { input with streamType := type, streamUsage := usage } := update_self a _ _
    obtain ⟨c, rfl, hc⟩ := setRouteCapture_standby hself hstat h
    exact ⟨fmState, type, usage, c, rfl, hc.trans hrouted.symm, hfm⟩
  unfold State.openRecording at h
  dsimp only at h
  split at h
  · cases h
    exact ⟨s.fmState, _, _, s.capture, rfl, rfl, Or.inl rfl⟩
  · split at h
    · rename_i hfm
      exact hroute (hroutes (Or.inr hfm)) (Or.inr rfl) h
    · split at h
      · cases h
        exact ⟨s.fmState, _, _, s.capture, rfl, rfl, Or.inl rfl⟩
      · split at h
        · rename_i hcamcorder
          exact hroute (hroutes (Or.inl hcamcorder)) (Or.inl rfl) h
        · cases h
          exact ⟨s.fmState, _, _, s.capture, rfl, rfl, Or.inl rfl⟩

variable {sampleRate : Nat}

theorem placeInput_putOnly (hstat : input.streamStatus = .standby)
    (hroutes : s.RoutesAtOpen input.requestedDevices input.requestedFlags input.requestedSource sampleRate →
      s.capture.isRouted)
    (h : s.placeInput b env a input sampleRate = some (some s')) : PutOnly a input s s' := by
  unfold State.placeInput at h
  dsimp only at h
  split at h
  · cases h
    exact ⟨s.fmState, _, _, s.capture, rfl, rfl, Or.inl rfl⟩
  · split at h
    · rename_i hflags
      obtain ⟨t, ht, h⟩ := Option.map_eq_some_iff.mp h
      cases h
      exact openRecording_putOnly hstat (fun hsource => hroutes ⟨hflags, hsource⟩) ht
    · split at h
      · cases h
        exact ⟨s.fmState, _, _, s.capture, rfl, rfl, Or.inl rfl⟩
      · split at h
        · cases h
          exact ⟨s.fmState, _, _, s.capture, rfl, rfl, Or.inl rfl⟩
        · cases h

structure OpenedIn (a : Addr) (s s' : State) : Prop where
  free : s.ins a = none
  flags : SameFlags s s'
  playback : s'.playback = s.playback
  outs : s'.outs = s.outs
  playbackList : s'.playbackList = s.playbackList
  quiet : s'.Quiet → s.Quiet
  ins : ∀ p, p ≠ a → s'.ins p = s.ins p
  standby : ∀ input, s'.ins a = some input → input.streamStatus = .standby
  listed : ∀ p, p ∈ s.captureList ∨ (p = a ∧ (s'.ins a).isSome) → p ∈ s'.captureList

theorem State.quiet_of_radioOff {fmState : FmState} (hfm : fmState = s.fmState ∨ fmState = .on)
    (h : (s.amode, fmState, s.factory.mode) = (Mode.normal, FmState.off, FactoryMode.none)) : s.Quiet := by
  rcases hfm with rfl | rfl
  · exact h
  · cases congrArg (fun mood => mood.2.1) h

theorem openInput_opened {flags : Flags} (hok : RoutesUsed b s (.openInput a devices flags source sampleRate, env))
    (h : s.openInput b env a devices flags source sampleRate = some s') : OpenedIn a s s' := by
  unfold State.openInput at h
  split at h
  · cases h
  · rename_i hfree
    have hnone := Option.not_isSome_iff_eq_none.mp hfree
    obtain ⟨placed, hplaced, h⟩ := unbind h
    cases h
    split
    · refine ⟨hnone, ⟨rfl, rfl⟩, rfl, rfl, rfl, id, fun _ _ => rfl, ?_, ?_⟩
      · intro input hinput
        rw [hnone] at hinput
        cases hinput
      · rintro p (hp | ⟨-, hp⟩)
        · exact hp
        · rw [hnone] at hp
          cases hp
    · obtain ⟨fmState, type, usage, c, rfl, hc, hfm⟩ := placeInput_putOnly (s := s) rfl (fun hroutes => hok hroutes)
        hplaced
      split
      · refine ⟨hnone, ⟨rfl, hc⟩, rfl, rfl, rfl, State.quiet_of_radioOff hfm, fun p hp => update_of_ne hp _ _, ?_, ?_⟩
        · intro input hinput
          cases (update_self a _ s.ins).symm.trans hinput
          rfl
        · rintro p (hp | ⟨rfl, -⟩)
          · exact List.mem_append_left _ hp
          · exact List.mem_append_right _ List.mem_cons_self
      · refine ⟨hnone, ⟨rfl, hc⟩, rfl, rfl, rfl, State.quiet_of_radioOff hfm, ?_, ?_, ?_⟩
        · intro p hp
          exact (update_of_ne hp _ _).trans (update_of_ne hp _ _)
        · intro input hinput
          cases (update_self a _ _).symm.trans hinput
        · rintro p (hp | ⟨-, hp⟩)
          · exact hp
          · dsimp only at hp
            rw [update_self] at hp
            cases hp

theorem RouteInv.openInput (h : RouteInv s) {flags : Flags}
    (hok : RoutesUsed b s (.openInput a devices flags source sampleRate, env))
    (hs : s.openInput b env a devices flags source sampleRate = some s') : RouteInv s' := by
  have hopened := openInput_opened hok hs
  refine ⟨?_, ?_, ⟨?_, ?_⟩, ?_⟩
  · rw [hopened.outs, hopened.playbackList]
    exact h.listedOut
  · intro p hp
    rcases eq_or_ne p a with rfl | hne
    · exact hopened.listed p (Or.inr ⟨rfl, hp⟩)
    · rw [hopened.ins p hne] at hp
      exact hopened.listed p (Or.inl (h.listedIn p hp))
  · rw [hopened.outs]
    exact h.released.outs
  · intro p input hinput hrel
    rcases eq_or_ne p a with rfl | hne
    · exact hopened.standby input hinput
    · rw [hopened.ins p hne] at hinput
      exact h.released.ins p input hinput hrel
  · intro hquiet
    obtain ⟨hp, hc⟩ := h.used (hopened.quiet hquiet)
    refine ⟨hp.congr hopened.playback hopened.outs, ?_⟩
    intro hrouted
    rw [hopened.flags.2] at hrouted
    obtain ⟨p, user, huser, huses⟩ := hc hrouted
    have hne : p ≠ a := by
      rintro rfl
      rw [hopened.free] at huser
      cases huser
    exact ⟨p, user, (hopened.ins p hne).trans huser, huses⟩

end

end ExynosHal.Audio
