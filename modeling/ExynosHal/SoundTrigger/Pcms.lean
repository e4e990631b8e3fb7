import ExynosHal.SoundTrigger.Power

/-! # The PCMs behind the pointers

`recording_pcm` and `streaming_pcm` with the PCMs they point to, which are closed one by one.
-/

namespace ExynosHal.SoundTrigger
open Library.Run
open Function (update update_of_ne update_self)

inductive Node where
  | streaming | recording
  deriving DecidableEq

structure Pcm where
  id : Nat
  ready : Bool

structure Pcms where
  held : Node → Option Pcm := fun _ => none
  opened : Nat := 0
  closed : List Nat := []

namespace Pcms

variable (p : Pcms) (s : Stdev)

def given : PcmOpen → Option Pcm
  | .null => none
  | .notReady => some ⟨p.opened, false⟩
  | .ready => some ⟨p.opened, true⟩

def pcmOpen (n : Node) (pcm : PcmOpen) : Pcms := { p with
    held := update p.held n (p.given pcm)
    opened := if pcm = .null then p.opened else p.opened + 1 }

def pcmClose (n : Node) : Pcms :=
  match p.held n with
  | some pcm => { p with held := update p.held n none, closed := pcm.id :: p.closed }
  | none => p

def afterPower (t : Stdev) : Pcms :=
  if t.streamingPcm then p else p.pcmClose .streaming

def closeOldRecording : Pcms :=
  if s.isRecording then p.pcmClose .recording else p

def closePcms : Pcms :=
  if s.isStreaming.any then (p.closeOldRecording s).pcmClose .streaming else p.closeOldRecording s

def restartRecording (pcm : PcmOpen) : Pcms :=
  if s.isRecording ∧ !s.recordingPcm then p.pcmOpen .recording pcm else p

def restartStreaming (pcm : PcmOpen) : Pcms :=
  if s.isStreaming.any ∧ s.isSeamlessRecording ∧ !s.streamingPcm then
    if pcm = .notReady then (p.pcmOpen .streaming pcm).pcmClose .recording else p.pcmOpen .streaming pcm
  else p

def restartPcms (recording streaming : PcmOpen) : Pcms :=
  if (SoundTrigger.restartRecording s recording).2 then p.restartRecording s recording
  else (p.restartRecording s recording).restartStreaming (SoundTrigger.restartRecording s recording).1 streaming

def after : Action → Pcms
  | .openForStreaming pcm =>
    if s.voicecallStarted ∨ !s.isStreaming.any ∨ s.isSeamlessRecording then p else p.pcmOpen .streaming pcm
  | .closeForStreaming audioHandle =>
    if audioHandle ≤ 0 ∨ s.voicecallStarted ∨ !s.isSeamlessRecording ∨
    !s.isStreaming.any then p else p.pcmClose .streaming
  | .openRecording pcm => if s.voicecallStarted then p else (p.closeOldRecording s).pcmOpen .recording pcm
  | .closeRecording =>
    if s.voicecallStarted then p
    else (p.afterPower (recoverStops s)).closeOldRecording (recoverStops s)
  | .headsetStatus isConnected recording streaming =>
    if s.isMicConfigured then
      ((p.closePcms s).afterPower (changeMic s isConnected)).restartPcms (changeMic s isConnected) recording streaming
    else p
  | .voicecallStatus started => if started ∧ s.isMicConfigured then (p.closePcms s).afterPower (stopForCall s) else p
  | a => (step s a).elim p p.afterPower

end Pcms

def pcmStep (x : Stdev × Pcms) (a : Action) : Option (Stdev × Pcms) := (step x.1 a).map fun t => (t, x.2.after x.1 a)

def Stdev.flag (s : Stdev) : Node → Bool
  | .streaming => s.isSeamlessRecording
  | .recording => s.isRecording

structure Truthful (x : Stdev × Pcms) : Prop where
  flag : ∀ n, x.1.flag n ↔ ∃ pcm ∈ x.2.held n, pcm.ready ∧ pcm.id ∉ x.2.closed
  flagged : ∀ n, (x.2.held n).isSome → x.1.flag n
  once : x.2.closed.Nodup
  kept : ∀ id < x.2.opened, id ∈ x.2.closed ∨ ∃ n, ∃ pcm ∈ x.2.held n, pcm.id = id

def OpensReady (s : Stdev) : Action → Prop
  | .openForStreaming pcm =>
    s.voicecallStarted = false → s.isStreaming.any → s.isSeamlessRecording = false → pcm = .ready
  | .openRecording pcm => s.voicecallStarted = false → pcm = .ready
  | .headsetStatus _ recording streaming =>
    s.isMicConfigured → (s.isRecording → recording = .ready) ∧ (s.isSeamlessRecording → streaming = .ready)
  | _ => True

structure Pcms.Sound (p : Pcms) : Prop where
  once : p.closed.Nodup
  old : ∀ id ∈ p.closed, id < p.opened
  held : ∀ n, ∀ pcm ∈ p.held n, pcm.id < p.opened ∧ pcm.id ∉ p.closed
  apart : ∀ n m, ∀ pcm ∈ p.held n, ∀ pcm' ∈ p.held m, pcm.id = pcm'.id → n = m
  kept : ∀ id < p.opened, id ∈ p.closed ∨ ∃ n, ∃ pcm ∈ p.held n, pcm.id = id

section
variable {p : Pcms} {n : Node} {P : Node → Prop}

theorem forall_node (hs : P .streaming) (hr : P .recording) (n : Node) : P n := by
  cases n
  exacts [hs, hr]

theorem forall_ne_streaming (h : P .recording) : ∀ n ≠ .streaming, P n :=
  forall_node (fun hne => absurd rfl hne) fun _ => h

theorem forall_ne_recording (h : P .streaming) : ∀ n ≠ .recording, P n :=
  forall_node (fun _ => h) fun hne => absurd rfl hne

theorem Pcms.held_pcmClose (p : Pcms) (n : Node) : (p.pcmClose n).held = update p.held n none := by
  rcases h : p.held n with _ | pcm
  · have hsame : update p.held n none = p.held := by rw [← h, Function.update_eq_self]
    rw [hsame, Pcms.pcmClose, h]
  · rw [Pcms.pcmClose, h]

theorem update_eq_some_iff {held : Node → Option Pcm} {v : Option Pcm} {m : Node} {pcm : Pcm} :
    update held n v m = some pcm ↔ m = n ∧ v = some pcm ∨ m ≠ n ∧ held m = some pcm := by
  rcases eq_or_ne m n with rfl | hne
  · simp
  · simp [hne]

theorem Pcms.Sound.pcmClose (h : p.Sound) (n : Node) : (p.pcmClose n).Sound := by
  unfold Pcms.pcmClose
  rcases hn : p.held n with _ | pcm
  · exact h
  · have hother {m : Node} {pcm' : Pcm} (hm : update p.held n none m = some pcm') :
        m ≠ n ∧ p.held m = some pcm' := by
      rcases update_eq_some_iff.mp hm with ⟨-, hnone⟩ | hm
      · cases hnone
      · exact hm
    constructor
    · exact List.nodup_cons.mpr ⟨(h.held n pcm hn).2, h.once⟩
    · exact List.forall_mem_cons.mpr ⟨(h.held n pcm hn).1, h.old⟩
    · intro m pcm' hm
      obtain ⟨hne, hm⟩ := hother hm
      refine ⟨(h.held m pcm' hm).1, ?_⟩
      rw [List.mem_cons, not_or]
      exact ⟨fun hsame => hne (h.apart m n pcm' hm pcm hn hsame), (h.held m pcm' hm).2⟩
    · intro m m' pcm₁ hm pcm₂ hm'
      exact h.apart m m' pcm₁ (hother hm).2 pcm₂ (hother hm').2
    · intro id hid
      rcases h.kept id hid with hclosed | ⟨m, pcm', hm, rfl⟩
      · exact .inl (List.mem_cons_of_mem _ hclosed)
      · rcases eq_or_ne m n with rfl | hne
        · cases hn.symm.trans hm
          exact .inl List.mem_cons_self
        · exact .inr ⟨m, pcm', update_eq_some_iff.mpr (.inr ⟨hne, hm⟩), rfl⟩

theorem Pcms.given_cases (p : Pcms) (pcm : PcmOpen) :
    p.given pcm = none ∧ pcm = .null ∨ pcm ≠ .null ∧ p.given pcm = some ⟨p.opened, pcm = .ready⟩ := by
  cases pcm <;> simp [Pcms.given]

theorem Pcms.Sound.pcmOpen (h : p.Sound) (hn : p.held n = none) (pcm : PcmOpen) : (p.pcmOpen n pcm).Sound := by
  unfold Pcms.pcmOpen
  rcases p.given_cases pcm with ⟨hgiven, hnull⟩ | ⟨hsome, hgiven⟩
  · rw [hgiven, ← hn, Function.update_eq_self, if_pos hnull]
    exact h
  rw [hgiven, if_neg hsome]
  constructor
  · exact h.once
  · exact fun id hid => Nat.lt_succ_of_lt (h.old id hid)
  · intro m pcm' hm
    rcases update_eq_some_iff.mp hm with ⟨-, ⟨⟩⟩ | ⟨-, hm⟩
    · exact ⟨Nat.lt_succ_self _, fun hclosed => (h.old _ hclosed).false⟩
    · exact ⟨Nat.lt_succ_of_lt (h.held m pcm' hm).1, (h.held m pcm' hm).2⟩
  · intro m m' pcm₁ hm pcm₂ hm' hsame
    rcases update_eq_some_iff.mp hm with ⟨rfl, ⟨⟩⟩ | ⟨-, hold⟩
    · rcases update_eq_some_iff.mp hm' with ⟨rfl, -⟩ | ⟨-, hold'⟩
      · rfl
      · exact absurd hsame (h.held m' pcm₂ hold').1.ne'
    · rcases update_eq_some_iff.mp hm' with ⟨rfl, ⟨⟩⟩ | ⟨-, hold'⟩
      · exact absurd hsame (h.held m pcm₁ hold).1.ne
      · exact h.apart m m' pcm₁ hold pcm₂ hold' hsame
  · intro id hid
    rcases Nat.lt_succ_iff_lt_or_eq.mp hid with hid | rfl
    · rcases h.kept id hid with hclosed | ⟨m, pcm', hm, rfl⟩
      · exact .inl hclosed
      · refine .inr ⟨m, pcm', update_eq_some_iff.mpr (.inr ⟨?_, hm⟩), rfl⟩
        rintro rfl
        cases hn.symm.trans hm
    · exact .inr ⟨n, _, update_self _ _ _, rfl⟩

end

def Stdev.pointer (s : Stdev) : Node → Bool
  | .streaming => s.streamingPcm
  | .recording => s.recordingPcm

structure Tracked (s : Stdev) (p : Pcms) : Prop where
  sound : p.Sound
  pointer : ∀ n, s.pointer n = (p.held n).isSome
  streaming : s.isSeamlessRecording → s.isStreaming.any

def Flagged (s : Stdev) (p : Pcms) : Prop := ∀ n, (p.held n).map Pcm.ready = if s.flag n then some true else none

theorem truthful_iff_flagged {s : Stdev} {p : Pcms} (h : Tracked s p) : Truthful (s, p) ↔ Flagged s p := by
  constructor
  · intro htrue n
    rcases hn : p.held n with _ | pcm
    · rw [if_neg]
      · rfl
      · intro hflag
        obtain ⟨pcm, hpcm, -⟩ := (htrue.flag n).mp hflag
        cases hn.symm.trans hpcm
    · have hflag : s.flag n = true := htrue.flagged n (by simp [hn])
      obtain ⟨pcm', hpcm, hready, -⟩ := (htrue.flag n).mp hflag
      cases hn.symm.trans hpcm
      rw [if_pos hflag, Option.map_some, hready]
  · intro hflags
    refine ⟨?_, ?_, h.sound.once, h.sound.kept⟩
    · intro n
      have hn := hflags n
      constructor
      · intro hflag
        rw [if_pos hflag, Option.map_eq_some_iff] at hn
        obtain ⟨pcm, hpcm, hready⟩ := hn
        exact ⟨pcm, hpcm, hready, (h.sound.held n pcm hpcm).2⟩
      · rintro ⟨pcm, hpcm, -⟩
        by_contra hflag
        rw [if_neg hflag, hpcm] at hn
        cases hn
    · intro n hsome
      have hn := hflags n
      by_contra hflag
      rw [if_neg hflag, Option.map_eq_none_iff] at hn
      rw [hn] at hsome
      cases hsome

structure Quiet (s t : Stdev) : Prop where
  isRecording : t.isRecording = s.isRecording
  recordingPcm : t.recordingPcm = s.recordingPcm
  stream : t.streamingPcm = s.streamingPcm ∧ t.isSeamlessRecording = s.isSeamlessRecording ∧
      (s.isStreaming.any → t.isStreaming.any) ∨
    t.streamingPcm = false ∧ t.isSeamlessRecording = false

section
variable {r s t : Stdev}

theorem Quiet.refl (s : Stdev) : Quiet s s := ⟨rfl, rfl, .inl ⟨rfl, rfl, id⟩⟩

theorem Quiet.trans (h : Quiet r s) (h' : Quiet s t) : Quiet r t := by
  refine ⟨h'.isRecording.trans h.isRecording, h'.recordingPcm.trans h.recordingPcm, ?_⟩
  rcases h'.stream with ⟨hpcm, hseamless, hstrm⟩ | hoff
  · rw [hpcm, hseamless]
    exact h.stream.imp_left fun ⟨hpcm, hseamless, hstreamed⟩ => ⟨hpcm, hseamless, hstrm ∘ hstreamed⟩
  · exact .inr hoff

theorem Quiet.ite {c : Prop} [Decidable c] (h : Quiet r s) (h' : Quiet r t) : Quiet r (if c then s else t) := by
  split_ifs
  · exact h
  · exact h'

theorem quiet_vtsPowerOff (s : Stdev) : Quiet s (vtsPowerOff s) := by
  rw [vtsPowerOff_eq]
  exact ⟨rfl, rfl, .inr ⟨rfl, rfl⟩⟩

theorem quiet_vtsSetPower (s : Stdev) (algorithms : Mask) : Quiet s (vtsSetPower s algorithms) := by
  refine .ite ?_ (quiet_vtsPowerOff s)
  rw [vtsPowerOn_eq]
  exact ⟨rfl, rfl, .inr ⟨rfl, rfl⟩⟩

theorem quiet_powerCycle (s : Stdev) : Quiet s (powerCycle s) := (quiet_vtsPowerOff s).trans (quiet_vtsSetPower _ _)

theorem quiet_threadExit (s : Stdev) : Quiet s (threadExit s) :=
  (Quiet.ite (.refl s) (quiet_vtsPowerOff s)).trans ⟨rfl, rfl, .inl ⟨rfl, rfl, id⟩⟩

theorem quiet_reconfigure (s : Stdev) (i : Model) : Quiet s (reconfigure s i) := .ite (quiet_powerCycle s) (.refl s)

theorem quiet_setExecstate (h : Quiet s t) (i : Model) (execstate : Execstate) (failed : Bool) :
    Quiet s (setExecstate t i execstate failed) :=
  h.trans ⟨rfl, rfl, .inl ⟨rfl, rfl, id⟩⟩

theorem quiet_clearModel (s : Stdev) (i : Model) : Quiet s (clearModel s i) := ⟨rfl, rfl, .inl ⟨rfl, rfl, id⟩⟩

theorem quiet_handleStopModel (s : Stdev) (i : Model) : Quiet s (handleStopModel s i) :=
  quiet_setExecstate (.ite ((Quiet.ite (.refl s) (quiet_clearModel s i)).trans (quiet_reconfigure _ i)) (.refl s)) i _ _

theorem quiet_handleStopRecognition (s : Stdev) : Quiet s (handleStopRecognition s) :=
  (quiet_handleStopModel s .hotword).trans (quiet_handleStopModel _ .svoice)

theorem quiet_recoverStops (s : Stdev) : Quiet s (recoverStops s) := .ite (quiet_handleStopRecognition s) (.refl s)

theorem quiet_stopVts (s : Stdev) (i : Model) : Quiet s (stopVts s i) := by
  have hjoin : Quiet s (joinCallbackThread s) := (Quiet.ite (quiet_threadExit s) (.refl s)).trans (quiet_vtsPowerOff _)
  exact .ite (.ite (quiet_powerCycle s) hjoin) (.refl s)

theorem quiet_stopRecognitionL (s : Stdev) (handle : Int) : Quiet s (stopRecognitionL s handle).1 := by
  unfold stopRecognitionL
  split_ifs
  · exact .refl s
  · rcases s.loaded handle with _ | i
    · exact .refl s
    · dsimp only
      split_ifs
      · exact .refl s
      · exact quiet_setExecstate ((quiet_clearModel s i).trans (quiet_stopVts _ i)) i _ _

theorem quiet_unloadSoundModel (s : Stdev) (handle : Int) : Quiet s (unloadSoundModel s handle).1 := by
  unfold unloadSoundModel
  rcases Model.ofHandle handle with _ | i
  · exact .refl s
  · dsimp only
    split_ifs
    · have hstop : Quiet s (stopBeforeUnload s handle i).1 := by
        unfold stopBeforeUnload
        split_ifs
        · exact quiet_stopRecognitionL s handle
        · exact .refl s
      exact hstop.trans ⟨rfl, rfl, .inl ⟨rfl, rfl, id⟩⟩
    · exact .refl s

theorem quiet_beginRecognition (h : Quiet r s) (i : Model) (callback : Option Nat) :
    Quiet r (beginRecognition s i callback) := by
  have hthr : Quiet s (startCallbackThread s) := .ite (.refl s) ⟨rfl, rfl, .inl ⟨rfl, rfl, id⟩⟩
  have hcb : Quiet s (setCallback (startCallbackThread s) i callback) :=
    hthr.trans ⟨rfl, rfl, .inl ⟨rfl, rfl, id⟩⟩
  exact quiet_setExecstate ((h.trans hcb).trans (quiet_reconfigure _ i)) i _ _

theorem quiet_startRecognition (s : Stdev) (handle : Int) (config : Option Config) (callback : Option Nat)
    (allocated : Bool) : Quiet s (startRecognition s handle config callback allocated).1 := by
  unfold startRecognition
  rcases s.loaded handle with _ | i
  · exact .refl s
  · have hbefore : Quiet s (beforeStart s i) := .ite (quiet_handleStopRecognition s) (.refl s)
    dsimp only [startModel]
    by_cases hcall : (beforeStart s i).voicecallStarted
    · rw [if_pos hcall]
      exact hbefore
    · rw [if_neg hcall]
      rcases config with _ | c
      · exact quiet_beginRecognition hbefore i callback
      · split_ifs
        · refine quiet_beginRecognition ?_ i callback
          exact hbefore.trans ⟨rfl, rfl, .inl ⟨rfl, rfl, id⟩⟩
        · exact hbefore.trans ⟨rfl, rfl, .inl ⟨rfl, rfl, id⟩⟩

theorem quiet_loadSoundModel (s : Stdev) (handleNull : Bool) (soundModel : Option SoundModel) (written : Int) :
    Quiet s (loadSoundModel s handleNull soundModel written).1 := by
  have hload (i : Model) (generic : Bool) : Quiet s (loadModel s i generic written).1 := by
    unfold loadModel
    split_ifs <;> exact ⟨rfl, rfl, .inl ⟨rfl, rfl, id⟩⟩
  unfold loadSoundModel
  rcases soundModel with _ | m
  · exact .refl s
  · dsimp only
    split_ifs
    · exact .refl s
    · split
      · exact hload _ _
      · exact hload _ _
      · exact .refl s

theorem quiet_callBack (s : Stdev) (w : WakeUp) : Quiet s (callBack s w) := by
  have hstop (t : Stdev) (handle : Int) : Quiet t (stopDuringCallback t handle) := by
    unfold stopDuringCallback
    split_ifs
    · exact .refl t
    · rcases t.loaded handle with _ | i
      · exact .refl t
      · exact quiet_setExecstate (.refl t) i _ _
  have hstops (stops : List Int) (t : Stdev) (h : Quiet s t) : Quiet s (stops.foldl stopDuringCallback t) := by
    induction stops generalizing t with
    | nil => exact h
    | cons handle stops ih => exact ih _ (h.trans (hstop t handle))
  unfold callBack
  rcases s.recognitionCallbacks w.word.model with _ | callback
  · exact .refl s
  · refine .ite ((hstops w.stops _ ?_).trans ⟨rfl, rfl, .inl ⟨rfl, rfl, id⟩⟩) (.refl s)
    exact ⟨rfl, rfl, .inl ⟨rfl, rfl, id⟩⟩

theorem quiet_wakeUp (s : Stdev) (w : WakeUp) : Quiet s (wakeUp s w).1 := by
  unfold wakeUp
  split_ifs
  · refine (quiet_callBack s w).trans ?_
    unfold afterCallBack
    split_ifs
    · exact ⟨rfl, rfl, .inl ⟨rfl, rfl, fun _ => Mask.any_single _⟩⟩
    · have hrecover : Quiet (callBack s w) (recover (callBack s w) w.word.model) :=
        .ite ((quiet_handleStopRecognition _).trans ⟨rfl, rfl, .inl ⟨rfl, rfl, id⟩⟩) (.refl _)
      unfold restartOrLeave
      split_ifs
      · exact hrecover.trans (quiet_powerCycle _)
      · exact hrecover
  · exact .refl s

theorem quiet_wakeUps (s : Stdev) (strings : List WakeUp) : Quiet s (wakeUps s strings).1 := by
  induction strings generalizing s with
  | nil => exact .refl s
  | cons w strings ih =>
    unfold wakeUps
    split_ifs
    · exact quiet_wakeUp s w
    · exact (quiet_wakeUp s w).trans (ih _)

theorem quiet_threadIteration (s : Stdev) (poll : Poll) : Quiet s (threadIteration s poll) := by
  cases poll with
  | error => exact quiet_threadExit s
  | uevent strings => exact .ite ((quiet_wakeUps s strings).trans (quiet_threadExit _)) (quiet_wakeUps s strings)
  | nothing => exact .refl s
  | socketError =>
    have hcnt : Quiet s { s with recoveryCnt := s.recoveryCnt + 1 } := ⟨rfl, rfl, .inl ⟨rfl, rfl, id⟩⟩
    exact .ite (hcnt.trans (quiet_threadExit _)) hcnt

end

structure Good (s : Stdev) (p : Pcms) : Prop extends Tracked s p where
  flags : Flagged s p

section
variable {s t : Stdev} {p q : Pcms} {n : Node}

theorem Pcms.pcmClose_of_none (h : p.held n = none) : p.pcmClose n = p := by
  rw [Pcms.pcmClose, h]

section
variable (h : Good s p)
include h

theorem Good.held_eq_none (hflag : s.flag n = false) : p.held n = none := by
  have hn := h.flags n
  rw [hflag] at hn
  exact Option.map_eq_none_iff.mp hn

theorem Good.of_same (hptr : ∀ n, t.pointer n = s.pointer n) (hflag : ∀ n, t.flag n = s.flag n)
    (hstrm : s.isStreaming.any → t.isStreaming.any) : Good t p := by
  refine ⟨⟨h.sound, fun n => (hptr n).trans (h.pointer n), ?_⟩, ?_⟩
  · intro hseamless
    exact hstrm (h.streaming ((hflag .streaming).symm.trans hseamless))
  · intro n
    rw [hflag n]
    exact h.flags n

theorem Good.of_closed (n : Node) (hptr : t.pointer n = false) (hflag : t.flag n = false)
    (hother : ∀ m ≠ n, t.pointer m = s.pointer m ∧ t.flag m = s.flag m)
    (hstrm : t.isSeamlessRecording → s.isStreaming.any → t.isStreaming.any)
    (hseamless : t.isSeamlessRecording → s.isSeamlessRecording) : Good t (p.pcmClose n) := by
  refine ⟨⟨h.sound.pcmClose n, ?_, fun hset => hstrm hset (h.streaming (hseamless hset))⟩, ?_⟩
  · intro m
    rw [Pcms.held_pcmClose]
    rcases eq_or_ne m n with rfl | hne
    · rw [update_self, hptr]
      rfl
    · rw [update_of_ne hne, (hother m hne).1]
      exact h.pointer m
  · intro m
    rw [Pcms.held_pcmClose]
    rcases eq_or_ne m n with rfl | hne
    · rw [update_self, hflag]
      rfl
    · rw [update_of_ne hne, (hother m hne).2]
      exact h.flags m

theorem Good.quiet (hquiet : Quiet s t) : Good t (p.afterPower t) := by
  unfold Pcms.afterPower
  rcases hquiet.stream with ⟨hpcm, hseamless, hstrm⟩ | ⟨hpcm, hseamless⟩
  · have hsame : Good t p := by
      refine h.of_same ?_ ?_ hstrm
      · exact forall_node hpcm hquiet.recordingPcm
      · exact forall_node hseamless hquiet.isRecording
    split_ifs with hset
    · exact hsame
    · rw [Pcms.pcmClose_of_none]
      · exact hsame
      · simpa [Stdev.pointer, hset] using hsame.pointer .streaming
  · rw [if_neg (by simp [hpcm])]
    refine h.of_closed .streaming hpcm hseamless ?_ (by simp [hseamless]) (by simp [hseamless])
    exact forall_ne_streaming ⟨hquiet.recordingPcm, hquiet.isRecording⟩

theorem Good.vtsSetMic (enableMic : Bool) : Good (vtsSetMic s enableMic) p := by
  rw [vtsSetMic_eq]
  exact h.of_same (forall_node rfl rfl) (forall_node rfl rfl) id

theorem Good.endRecording : Good (endRecording s) (p.pcmClose .recording) := by
  have hrelease : Good (SoundTrigger.endRecording s) (p.pcmClose .recording) ↔
      Good { s with recordingPcm := false, isRecording := false } (p.pcmClose .recording) := by
    unfold SoundTrigger.endRecording releaseMic
    split_ifs
    · rw [vtsSetMic_eq]
      constructor <;> exact fun hgood => hgood.of_same (forall_node rfl rfl) (forall_node rfl rfl) id
    · exact Iff.rfl
  exact hrelease.mpr (h.of_closed .recording rfl rfl (forall_ne_recording ⟨rfl, rfl⟩) (fun _ => id) id)

theorem Good.closeOldRecording : Good (closeOldRecording s) (p.closeOldRecording s) := by
  unfold SoundTrigger.closeOldRecording Pcms.closeOldRecording
  split_ifs
  · exact h.endRecording
  · exact h

end

theorem closeOldRecording_isRecording (s : Stdev) : (closeOldRecording s).isRecording = false := by
  unfold closeOldRecording
  split_ifs with hset
  · rfl
  · simpa using hset

theorem Pcms.map_ready_pcmOpen (q : Pcms) (n m : Node) (pcm : PcmOpen) : ((q.pcmOpen n pcm).held m).map Pcm.ready =
      if m = n then if pcm = .null then none else some (decide (pcm = .ready)) else (q.held m).map Pcm.ready := by
  rcases eq_or_ne m n with rfl | hne
  · cases pcm <;> simp [Pcms.pcmOpen, Pcms.given]
  · simp [Pcms.pcmOpen, hne]

theorem isSome_eq_of_ready {v : Option Pcm} {ready : Option Bool} (h : v.map Pcm.ready = ready) :
    v.isSome = ready.isSome := by
  rw [← h, Option.isSome_map]

/-- A PCM is opened for a pointer that is NULL. -/
structure Opening (s t : Stdev) (n : Node) (pcm : PcmOpen) : Prop where
  pointer : t.pointer n = decide (pcm ≠ .null)
  flag : pcm ≠ .notReady → t.flag n
  others : ∀ m ≠ n, t.pointer m = s.pointer m ∧ t.flag m = s.flag m
  streaming : t.isSeamlessRecording → t.isStreaming.any

theorem Opening.tracked {pcm : PcmOpen} (hopen : Opening s t n pcm) (h : q.Sound) (hn : q.held n = none)
    (hptr : ∀ m ≠ n, s.pointer m = (q.held m).isSome) : Tracked t (q.pcmOpen n pcm) := by
  refine ⟨h.pcmOpen hn pcm, ?_, hopen.streaming⟩
  intro m
  rw [isSome_eq_of_ready (q.map_ready_pcmOpen n m pcm)]
  rcases eq_or_ne m n with rfl | hne
  · rw [if_pos rfl, hopen.pointer]
    cases pcm <;> rfl
  · rw [if_neg hne, Option.isSome_map, (hopen.others m hne).1]
    exact hptr m hne

theorem Opening.flagged_iff {pcm : PcmOpen} (hopen : Opening s t n pcm) : Flagged t (q.pcmOpen n pcm) ↔
      pcm = .ready ∧ ∀ m ≠ n, (q.held m).map Pcm.ready = if s.flag m then some true else none := by
  constructor
  · intro h
    refine ⟨?_, ?_⟩
    · have hn := h n
      rw [q.map_ready_pcmOpen, if_pos rfl] at hn
      cases pcm with
      | ready => rfl
      | null => simp [hopen.flag] at hn
      | notReady => simp at hn
    · intro m hne
      have hm := h m
      rw [q.map_ready_pcmOpen, if_neg hne, (hopen.others m hne).2] at hm
      exact hm
  · rintro ⟨rfl, hflags⟩ m
    rw [q.map_ready_pcmOpen]
    rcases eq_or_ne m n with rfl | hne
    · simp [hopen.flag]
    · rw [if_neg hne, (hopen.others m hne).2]
      exact hflags m hne

structure Emptied (s t : Stdev) (q : Pcms) : Prop where
  sound : q.Sound
  held : ∀ n, q.held n = none
  pointer : ∀ n, t.pointer n = false
  flag : ∀ n, t.flag n = s.flag n
  streaming : t.isStreaming.any = s.isStreaming.any

theorem Good.closePcms (h : Good s p) (t : Stdev) (ht : t.streamingPcm = false) :
    ((p.closePcms s).afterPower t).Sound ∧ ∀ n, ((p.closePcms s).afterPower t).held n = none := by
  have hrec := h.closeOldRecording
  have hnone := hrec.held_eq_none (n := .recording) (closeOldRecording_isRecording s)
  have hclosed : (p.closePcms s).Sound ∧ (p.closePcms s).held .recording = none := by
    unfold Pcms.closePcms
    split_ifs
    · refine ⟨hrec.sound.pcmClose .streaming, ?_⟩
      rw [Pcms.held_pcmClose, update_of_ne (by decide)]
      exact hnone
    · exact ⟨hrec.sound, hnone⟩
  unfold Pcms.afterPower
  rw [if_neg (by simp [ht])]
  refine ⟨hclosed.1.pcmClose .streaming, ?_⟩
  intro n
  rw [Pcms.held_pcmClose]
  cases n
  · exact update_self _ _ _
  · rw [update_of_ne (by decide)]
    exact hclosed.2

theorem emptied_changeMic (h : Good s p) (isConnected : Bool) :
    Emptied s (changeMic s isConnected) ((p.closePcms s).afterPower (changeMic s isConnected)) := by
  have hfacts : (∀ n, (changeMic s isConnected).pointer n = false) ∧
      (∀ n, (changeMic s isConnected).flag n = s.flag n) ∧
      (changeMic s isConnected).isStreaming.any = s.isStreaming.any := by
    have hrec : (if s.isRecording then false else s.recordingPcm) = false := by
      split_ifs with hset
      · rfl
      · have hptr := h.pointer .recording
        rw [h.held_eq_none (by simpa [Stdev.flag] using hset)] at hptr
        exact hptr
    unfold changeMic restartModels
    rw [vtsPowerOff_eq]
    split_ifs with hany
    · rw [vtsSetPower, if_pos, vtsPowerOn_eq]
      · exact ⟨forall_node rfl hrec, forall_node rfl rfl, rfl⟩
      · rcases hany with hany | hany
        all_goals
          obtain ⟨i, hi⟩ := Mask.any_iff.mp hany
          exact Mask.any_of (i := i) (by simp [hi])
    · have hstrm : s.isStreaming.any = false := by simpa using (not_or.mp hany).2
      refine ⟨forall_node rfl hrec, forall_node ?_ rfl, hstrm.symm⟩
      have hseamless : s.isSeamlessRecording = false := by
        rw [Bool.eq_false_iff]
        intro hset
        rw [h.streaming hset] at hstrm
        cases hstrm
      exact hseamless.symm
  obtain ⟨hsound, hheld⟩ := h.closePcms (changeMic s isConnected) (hfacts.1 .streaming)
  exact ⟨hsound, hheld, hfacts.1, hfacts.2.1, hfacts.2.2⟩

theorem restartStreaming_spec (hsound : q.Sound) (hptr : ∀ n, s.pointer n = (q.held n).isSome)
    (hnone : q.held .streaming = none) (hstrm : s.isSeamlessRecording → s.isStreaming.any) (pcm : PcmOpen) :
    Tracked (restartStreaming s pcm).1 (q.restartStreaming s pcm) ∧
      (Flagged (restartStreaming s pcm).1 (q.restartStreaming s pcm) ↔ (s.isSeamlessRecording → pcm = .ready) ∧
          (q.held .recording).map Pcm.ready = if s.isRecording then some true else none) := by
  have hnull : s.streamingPcm = false := by
    have hptr := hptr .streaming
    rwa [hnone] at hptr
  unfold restartStreaming Pcms.restartStreaming
  by_cases hseamless : s.isSeamlessRecording
  · have hreopen : s.isStreaming.any ∧ s.isSeamlessRecording ∧ !s.streamingPcm := by
      simp [hstrm hseamless, hseamless, hnull]
    rw [if_pos hreopen, if_pos hreopen, forall_prop_of_true hseamless]
    rcases eq_or_ne pcm .notReady with rfl | hready
    · rw [if_pos rfl, if_pos rfl]
      refine ⟨⟨(hsound.pcmOpen hnone _).pcmClose _, ?_, fun _ => hstrm hseamless⟩, ?_⟩
      · intro n
        rw [Pcms.held_pcmClose]
        cases n <;> rfl
      · constructor
        · intro hflags
          have hstream := hflags .streaming
          rw [Pcms.held_pcmClose, update_of_ne (by decide), q.map_ready_pcmOpen] at hstream
          simp [Stdev.flag, hseamless] at hstream
        · rintro ⟨⟨⟩, -⟩
    · rw [if_neg hready, if_neg hready]
      have hopen : Opening s { s with streamingPcm := decide (pcm ≠ .null) } .streaming pcm :=
        ⟨rfl, fun _ => hseamless, forall_ne_streaming ⟨rfl, rfl⟩, hstrm⟩
      refine ⟨hopen.tracked hsound hnone fun m _ => hptr m, hopen.flagged_iff.trans ?_⟩
      exact and_congr_right fun _ => ⟨fun h => h .recording (by decide), fun h => forall_ne_streaming h⟩
  · rw [if_neg (fun h => hseamless h.2.1), if_neg (fun h => hseamless h.2.1)]
    refine ⟨⟨hsound, hptr, hstrm⟩, ?_⟩
    constructor
    · exact fun hflags => ⟨fun h => absurd h hseamless, hflags .recording⟩
    · rintro ⟨-, hrec⟩ n
      cases n
      · rw [hnone, if_neg (by simpa [Stdev.flag] using hseamless)]
        rfl
      · exact hrec

theorem Emptied.restartPcms (h : Emptied s t q) (hseamless : s.isSeamlessRecording → s.isStreaming.any)
    (recording streaming : PcmOpen) :
    Tracked (restartPcms t recording streaming).1 (q.restartPcms t recording streaming) ∧
      (Flagged (restartPcms t recording streaming).1 (q.restartPcms t recording streaming) ↔
        (s.isRecording → recording = .ready) ∧ (s.isSeamlessRecording → streaming = .ready)) := by
  have hstream : t.isSeamlessRecording = s.isSeamlessRecording := h.flag .streaming
  have hstrm : t.isSeamlessRecording → t.isStreaming.any := by
    rw [hstream, h.streaming]
    exact hseamless
  have hnull : t.recordingPcm = false := h.pointer .recording
  unfold SoundTrigger.restartPcms Pcms.restartPcms
  rw [← show t.isRecording = s.isRecording from h.flag .recording, ← hstream]
  by_cases hset : t.isRecording
  · have hopen : Opening t { vtsSetMic t true with recordingPcm := decide (recording ≠ .null) } .recording
        recording := by
      rw [vtsSetMic_eq]
      exact ⟨rfl, fun _ => hset, forall_ne_recording ⟨rfl, rfl⟩, hstrm⟩
    have htracked := hopen.tracked h.sound (h.held .recording) fun m _ => (h.pointer m).trans (by rw [h.held m]; rfl)
    have hrestart : SoundTrigger.restartRecording t recording =
        ({ vtsSetMic t true with recordingPcm := decide (recording ≠ .null) }, decide (recording = .notReady)) := by
      simp [SoundTrigger.restartRecording, hset, hnull]
    have hpcms : q.restartRecording t recording = q.pcmOpen .recording recording := by
      simp [Pcms.restartRecording, hset, hnull]
    simp only [hrestart, hpcms, hset, forall_const]
    by_cases hready : recording = .notReady
    · rw [if_pos (by simpa using hready), if_pos (by simpa using hready)]
      refine ⟨htracked, hopen.flagged_iff.trans ?_⟩
      rw [hready]
      simp
    · rw [if_neg (by simpa using hready), if_neg (by simpa using hready)]
      have hrest := restartStreaming_spec htracked.sound htracked.pointer
        (by simp [Pcms.pcmOpen, h.held]) htracked.streaming streaming
      refine ⟨hrest.1, hrest.2.trans ?_⟩
      rw [q.map_ready_pcmOpen, if_pos rfl, vtsSetMic_eq]
      cases recording <;> simp [hset, and_comm]
  · have hrestart : SoundTrigger.restartRecording t recording = (t, false) := by
      simp [SoundTrigger.restartRecording, hset]
    have hpcms : q.restartRecording t recording = q := by
      simp [Pcms.restartRecording, hset]
    simp only [hrestart, hpcms]
    have hrest := restartStreaming_spec h.sound (fun n => by rw [h.pointer n, h.held n]; rfl) (h.held .streaming)
      hstrm streaming
    refine ⟨hrest.1, hrest.2.trans ?_⟩
    simp [h.held, hset]

section
variable (h : Good s p)
include h

theorem Good.headsetStatus (isConnected : Bool) (recording streaming : PcmOpen) :
    Tracked (headsetStatus s isConnected recording streaming).1
        (p.after s (.headsetStatus isConnected recording streaming)) ∧
      (Flagged (headsetStatus s isConnected recording streaming).1
          (p.after s (.headsetStatus isConnected recording streaming)) ↔
        OpensReady s (.headsetStatus isConnected recording streaming)) := by
  unfold SoundTrigger.headsetStatus
  dsimp only [Pcms.after, OpensReady]
  split_ifs with hmic
  · rw [forall_prop_of_true hmic]
    exact (emptied_changeMic h isConnected).restartPcms h.streaming recording streaming
  · have hgood : Good { s with activeMic := micOf isConnected } p :=
      h.of_same (forall_node rfl rfl) (forall_node rfl rfl) id
    exact ⟨hgood.toTracked, iff_of_true hgood.flags fun hset => absurd hset hmic⟩

theorem Good.stopForCall : Good (stopForCall s) ((p.closePcms s).afterPower (stopForCall s)) := by
  have hoff : (SoundTrigger.stopForCall s).streamingPcm = false := by
    rw [SoundTrigger.stopForCall, vtsPowerOff_eq]
  obtain ⟨hsound, hheld⟩ := h.closePcms (SoundTrigger.stopForCall s) hoff
  have hrec := h.closeOldRecording
  have hptr : (SoundTrigger.stopForCall s).recordingPcm = false := by
    rw [SoundTrigger.stopForCall, vtsPowerOff_eq]
    dsimp only [SoundTrigger.closePcms]
    split_ifs with hset
    · rfl
    · have hnone := h.pointer .recording
      rw [h.held_eq_none (by simpa [Stdev.flag] using hset)] at hnone
      exact hnone
  have hflag (n : Node) : (SoundTrigger.stopForCall s).flag n = false := by
    rw [SoundTrigger.stopForCall, vtsPowerOff_eq]
    cases n <;> rfl
  refine ⟨⟨hsound, ?_, ?_⟩, ?_⟩
  · intro n
    rw [hheld n]
    cases n
    exacts [hoff, hptr]
  · intro hset
    cases (hflag .streaming).symm.trans hset
  · intro n
    rw [hheld n, hflag n]
    rfl

theorem Good.voicecallStatus (started : Bool) :
    Good (voicecallStatus s started) (p.after s (.voicecallStatus started)) := by
  have hstate {s : Stdev} {p : Pcms} (h : Good s p) : Good { s with voicecallStarted := started } p :=
    h.of_same (forall_node rfl rfl) (forall_node rfl rfl) id
  unfold SoundTrigger.voicecallStatus
  dsimp only [Pcms.after]
  cases started with
  | false => exact hstate h
  | true =>
    rw [if_pos rfl]
    by_cases hmic : s.isMicConfigured
    · rw [if_pos hmic, if_pos ⟨rfl, hmic⟩]
      exact hstate h.stopForCall
    · rw [if_neg hmic, if_neg (not_and_of_not_right _ hmic)]
      exact hstate h

theorem Good.openForStreaming (pcm : PcmOpen) : Tracked (openForStreaming s pcm).1 (p.after s (.openForStreaming pcm)) ∧
      (Flagged (openForStreaming s pcm).1 (p.after s (.openForStreaming pcm)) ↔
        OpensReady s (.openForStreaming pcm)) := by
  by_cases hbusy : s.voicecallStarted ∨ !s.isStreaming.any ∨ s.isSeamlessRecording
  · unfold SoundTrigger.openForStreaming
    dsimp only [Pcms.after, OpensReady]
    rw [if_pos hbusy, if_pos hbusy]
    refine ⟨h.toTracked, iff_of_true h.flags ?_⟩
    intro hcall hstrm hseamless
    simp [hcall, hstrm, hseamless] at hbusy
  · obtain ⟨hcall, hstrm, hseamless⟩ :
        s.voicecallStarted = false ∧ s.isStreaming.any = true ∧ s.isSeamlessRecording = false := by
      simpa using hbusy
    have hopen : Opening s (SoundTrigger.openForStreaming s pcm).1 .streaming pcm := by
      unfold SoundTrigger.openForStreaming
      rw [if_neg hbusy]
      cases pcm
      all_goals
        refine ⟨rfl, ?_, forall_ne_streaming ⟨rfl, rfl⟩, fun _ => hstrm⟩
        simp [Stdev.flag]
    have hnone := h.held_eq_none (n := .streaming) hseamless
    rw [show p.after s (.openForStreaming pcm) = p.pcmOpen .streaming pcm from if_neg hbusy]
    refine ⟨hopen.tracked h.sound hnone fun m _ => h.pointer m, hopen.flagged_iff.trans ?_⟩
    constructor
    · exact fun hready _ _ _ => hready.1
    · exact fun hready => ⟨hready hcall hstrm hseamless, fun m _ => h.flags m⟩

theorem Good.openRecording (pcm : PcmOpen) : Tracked (openRecording s pcm).1 (p.after s (.openRecording pcm)) ∧
      (Flagged (openRecording s pcm).1 (p.after s (.openRecording pcm)) ↔ OpensReady s (.openRecording pcm)) := by
  unfold SoundTrigger.openRecording
  dsimp only [Pcms.after, OpensReady]
  split_ifs with hcall
  · exact ⟨h.toTracked, iff_of_true h.flags fun hset => absurd (hcall.symm.trans hset) (by decide)⟩
  · have hclosed := h.closeOldRecording.vtsSetMic true
    have hflag : (SoundTrigger.vtsSetMic (SoundTrigger.closeOldRecording s) true).isRecording = false := by
      rw [vtsSetMic_eq]
      exact closeOldRecording_isRecording s
    have hopen : Opening (SoundTrigger.vtsSetMic (SoundTrigger.closeOldRecording s) true)
        (startRecordingPcm (SoundTrigger.vtsSetMic (SoundTrigger.closeOldRecording s) true) pcm).1 .recording pcm := by
      cases pcm
      all_goals
        refine ⟨rfl, ?_, forall_ne_recording ⟨rfl, rfl⟩, hclosed.streaming⟩
        simp [Stdev.flag, startRecordingPcm]
    have hnone := hclosed.held_eq_none (n := .recording) hflag
    refine ⟨hopen.tracked hclosed.sound hnone fun m _ => hclosed.pointer m, hopen.flagged_iff.trans ?_⟩
    constructor
    · exact fun hready _ => hready.1
    · exact fun hready => ⟨hready (by simpa using hcall), fun m _ => hclosed.flags m⟩

theorem Good.closeRecording : Good (closeRecording s).1 (p.after s .closeRecording) := by
  unfold SoundTrigger.closeRecording
  dsimp only [Pcms.after]
  have hrecover := (h.quiet (quiet_recoverStops s)).closeOldRecording
  unfold SoundTrigger.closeOldRecording Pcms.closeOldRecording at hrecover
  split_ifs with hcall hset
  · exact h
  · simpa [Pcms.closeOldRecording, hset] using hrecover
  · simpa [Pcms.closeOldRecording, hset] using hrecover

theorem Good.closeForStreaming (audioHandle : Int) :
    Good (closeForStreaming s audioHandle).1 (p.after s (.closeForStreaming audioHandle)) := by
  have hoff : Quiet (closeStreamingPcm s) (vtsPowerOff (closeStreamingPcm s)) := quiet_vtsPowerOff _
  have hrestart : Quiet (closeStreamingPcm s)
      (vtsSetPower (startCallbackThread (vtsPowerOff (closeStreamingPcm s))) s.activeCallbackBitmask) := by
    have hthr : Quiet (vtsPowerOff (closeStreamingPcm s)) (startCallbackThread (vtsPowerOff (closeStreamingPcm s))) :=
      .ite (.refl _) ⟨rfl, rfl, .inl ⟨rfl, rfl, id⟩⟩
    exact (hoff.trans hthr).trans (quiet_vtsSetPower _ _)
  have hclosed : Good (closeStreamingPcm s) (p.pcmClose .streaming) := by
    exact h.of_closed .streaming rfl rfl (forall_ne_streaming ⟨rfl, rfl⟩) nofun nofun
  have hafter {t : Stdev} (hquiet : Quiet (closeStreamingPcm s) t) : Good t (p.pcmClose .streaming) := by
    have hgood := hclosed.quiet hquiet
    have hnone : (p.pcmClose .streaming).held .streaming = none := by
      rw [Pcms.held_pcmClose, update_self]
    unfold Pcms.afterPower at hgood
    rwa [Pcms.pcmClose_of_none hnone, ite_self] at hgood
  unfold SoundTrigger.closeForStreaming
  dsimp only [Pcms.after]
  by_cases hrefused : audioHandle ≤ 0 ∨ s.voicecallStarted ∨ !s.isSeamlessRecording ∨ !s.isStreaming.any
  · rw [if_pos hrefused]
    split_ifs with hhnd hcall hopen
    · exact h
    · exact h
    · exact h
    all_goals exact absurd hrefused (not_or.mpr ⟨hhnd, not_or.mpr ⟨hcall, hopen⟩⟩)
  · obtain ⟨hhnd, hcall, hopen⟩ := not_or.mp hrefused |>.imp_right not_or.mp
    rw [if_neg hrefused, if_neg hhnd, if_neg hcall, if_neg hopen]
    split_ifs
    · exact hafter hrestart
    · exact hafter hoff

theorem Good.step {a : Action} {y : Stdev × Pcms} (hy : pcmStep (s, p) a = some y) :
    Tracked y.1 y.2 ∧ (Flagged y.1 y.2 ↔ OpensReady s a) := by
  obtain ⟨t, ht, rfl⟩ := Option.map_eq_some_iff.mp hy
  have hgood {q : Pcms} (hq : Good t q) : Tracked t q ∧ (Flagged t q ↔ True) := ⟨hq.toTracked, iff_true_intro hq.flags⟩
  have hquiet (hq : Quiet s t) : Good t ((SoundTrigger.step s a).elim p p.afterPower) := by
    rw [show SoundTrigger.step s a = some t from ht]
    exact h.quiet hq
  cases a with
  | openForStreaming pcm =>
    cases ht
    exact h.openForStreaming pcm
  | openRecording pcm =>
    cases ht
    exact h.openRecording pcm
  | headsetStatus isConnected recording streaming =>
    cases ht
    exact h.headsetStatus isConnected recording streaming
  | closeForStreaming audioHandle =>
    cases ht
    exact hgood (h.closeForStreaming audioHandle)
  | closeRecording =>
    cases ht
    exact hgood h.closeRecording
  | voicecallStatus started =>
    cases ht
    exact hgood (h.voicecallStatus started)
  | load handleNull soundModel written =>
    cases ht
    exact hgood (hquiet (quiet_loadSoundModel s handleNull soundModel written))
  | unload handle =>
    cases ht
    exact hgood (hquiet (quiet_unloadSoundModel s handle))
  | startRecognition handle config callback allocated =>
    cases ht
    exact hgood (hquiet (quiet_startRecognition s handle config callback allocated))
  | stopRecognition handle =>
    cases ht
    exact hgood (hquiet (quiet_stopRecognitionL s handle))
  | stopGivenUp handle =>
    obtain ⟨i, -, rfl⟩ := Option.map_eq_some_iff.mp ht
    exact hgood (hquiet (quiet_setExecstate (.refl s) i _ _))
  | notifyAhalRecordStatus state =>
    cases ht
    refine hgood (hquiet ?_)
    cases state with
    | stop => exact .refl s
    | start => exact .ite (quiet_vtsPowerOff s) (.refl s)
    | other => exact .refl s
  | thread poll =>
    obtain ⟨-, hthr⟩ := Option.ite_none_right_eq_some.mp ht
    cases hthr
    exact hgood (hquiet (quiet_threadIteration s poll))

end

theorem good_opened : Good opened {} := by
  refine ⟨⟨⟨.nil, nofun, ?_, ?_, nofun⟩, ?_, nofun⟩, ?_⟩
  · rintro n pcm ⟨⟩
  · rintro n m pcm ⟨⟩
  · intro n
    cases n <;> rfl
  · intro n
    cases n <;> rfl

end

/-- The flags tell the truth, and no PCM is lost or closed twice, after every step of a run just when each PCM that is
opened is ready. -/
theorem pcms_truthful_iff (actions : List Action) :
    EachDefinedStep pcmStep (fun x a => ∀ y ∈ pcmStep x a, Truthful y) (opened, {}) actions ↔
      EachDefinedStep pcmStep (fun x a => OpensReady x.1 a) (opened, {}) actions := by
  refine eachDefinedStep_iff_of_kept (I := fun x => Good x.1 x.2) ?_ ?_ good_opened
  · rintro ⟨s, p⟩ a h
    rcases hy : pcmStep (s, p) a with _ | y
    · refine iff_of_true (by simp) ?_
      cases a
      case openForStreaming | openRecording | headsetStatus => cases hy
      all_goals trivial
    · obtain ⟨htracked, hflags⟩ := h.step hy
      have hiff : Truthful y ↔ OpensReady s a := (truthful_iff_flagged htracked).trans hflags
      simpa using hiff
  · rintro ⟨s, p⟩ a h htrue y hy
    obtain ⟨htracked, -⟩ := h.step hy
    exact ⟨htracked, (truthful_iff_flagged htracked).mp (htrue y hy)⟩

theorem recording_pcm_lost : ¬ EachDefinedStep pcmStep (fun x a => ∀ y ∈ pcmStep x a, Truthful y) (opened, {})
      [.openRecording .notReady, .openRecording .ready] := by
  intro h
  have hsnd := (h.2 _ rfl).1 _ rfl
  rcases hsnd.kept 0 (by decide) with hclosed | ⟨n, pcm, hpcm, hid⟩
  · exact absurd hclosed (by decide)
  · cases n
    · cases hpcm
    · cases hpcm
      exact absurd hid (by decide)

end ExynosHal.SoundTrigger
