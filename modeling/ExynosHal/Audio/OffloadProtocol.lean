import ExynosHal.Audio.OffloadQueue

/-! # What the two parties of an offload stream rely on

That the thread works on an open device, and leaves the status of a stream that has gone on alone, depends on the
caller.
-/

namespace ExynosHal.Audio.Offload
open Library.Run

def ThreadPc.inCall : ThreadPc → Bool
  | .inside _ _ => true
  | _ => false

structure Protocol (s : State) : Prop where
  openInCall : s.thread.inCall → s.deviceOpen
  statusKept : ∀ a t, threadStep s a = some t → t.status ≠ s.status →
    ∃ node event, s.thread = .drained node event ∧ node.period = s.period
  atMostOnce : ∀ node ∈ s.sent, (s.answersTo node).length ≤ 1
  exactlyOnce : ∀ node ∈ s.sent, node.msg ≠ .exit → WillBeAnsweredOnce s node

def ThreadPc.toDo : ThreadPc → List Node
  | .entering node _ | .inside node _ | .drained node _ => [node]
  | .starting | .sleeping _ | .finishing _ | .ended => []

def State.toDo (s : State) : List Node := s.thread.toDo ++ s.msgList.filter Node.wantsAnswer

def closes (s : State) : Input → Bool
  | .caller .standby | .caller .close =>
    s.status ≠ .standby ∧ ¬(s.status.aboveIdle ∧ s.callbackThreadBlocked)
  | .caller .returnFromWait | .caller .spuriousReturn => true
  | _ => false

def restarts (s : State) : Input → Bool
  | .caller (.write buffer bytes answers) =>
    s.status = .idle ∧ buffer ∧ 0 < bytes ∧ 0 ≤ answers.wrote ∧ answers.startRet = 0
  | _ => false

def Orderly (s : State) (input : Input) : Prop :=
  (closes s input → s.toDo = []) ∧ (restarts s input → ∀ node ∈ s.toDo, node.msg ≠ .waitPartialDrain)

instance (s : State) (input : Input) : Decidable (Orderly s input) :=
  inferInstanceAs (Decidable ((_ → _) ∧ (_ → _)))

structure Ordered (s : State) : Prop where
  open_eq : s.deviceOpen = s.status.aboveReady
  current : ∀ node ∈ s.toDo, s.deviceOpen ∧ (node.msg = .waitPartialDrain → node.period = s.period)

section
variable {s t : State}

structure Frame (s t : State) : Prop where
  deviceOpen : t.deviceOpen = s.deviceOpen
  period : t.period = s.period
  toDo : ∀ node ∈ t.toDo, node ∈ s.toDo

theorem frame_recvOffloadMsg (s : State) :
    (recvOffloadMsg s).status = s.status ∧ Frame { s with thread := .starting } (recvOffloadMsg s) := by
  unfold recvOffloadMsg
  split
  · exact ⟨rfl, rfl, rfl, fun node hnode => hnode⟩
  · rename_i node rest hlist
    have hmem : node.msg ≠ .exit → ∀ n ∈ node :: rest.filter Node.wantsAnswer,
        n ∈ State.toDo { s with thread := .starting } := by
      intro hmsg n hn
      have hwants : node.wantsAnswer = true := by simpa [Node.wantsAnswer] using hmsg
      simpa only [State.toDo, ThreadPc.toDo, List.nil_append, hlist, List.filter_cons_of_pos hwants] using hn
    split
    · exact ⟨rfl, rfl, rfl, fun n hn => absurd hn List.not_mem_nil⟩
    all_goals
      rename_i hmsg
      exact ⟨rfl, rfl, rfl, hmem (by simp [hmsg])⟩

theorem frame_loopTop (s : State) :
    (loopTop s).status = s.status ∧ Frame { s with thread := .starting } (loopTop s) := by
  unfold loopTop
  split
  · exact ⟨rfl, rfl, rfl, fun node hnode => hnode⟩
  · exact frame_recvOffloadMsg s

theorem Frame.of_starting (h : Frame { s with thread := .starting } t) : Frame s t :=
  ⟨h.deviceOpen, h.period, fun node hnode => List.mem_append_right _ (h.toDo node hnode)⟩

variable {a : ThreadAction}

theorem frame_threadStep (hstep : threadStep s a = some t) :
    Frame s t ∧ (t.status = s.status ∨ ∃ node event, s.thread = .drained node event ∧ t.status = .idle) := by
  unfold threadStep at hstep
  split at hstep
  case h_8 => cases hstep
  all_goals
    rename_i hthr
    cases hstep
  · exact ⟨(frame_loopTop s).2.of_starting, .inl (frame_loopTop s).1⟩
  iterate 2 exact ⟨(frame_recvOffloadMsg s).2.of_starting, .inl (frame_recvOffloadMsg s).1⟩
  · refine ⟨⟨rfl, rfl, ?_⟩, .inl rfl⟩
    rw [State.toDo, State.toDo, hthr]
    exact fun node hnode => hnode
  · rename_i node type ret
    refine ⟨⟨rfl, rfl, ?_⟩, .inl rfl⟩
    rw [State.toDo, State.toDo, hthr]
    cases type <;> simp [afterCall, ThreadPc.toDo] <;> tauto
  · refine ⟨⟨rfl, rfl, ?_⟩, .inr ⟨_, _, hthr, rfl⟩⟩
    exact fun node hnode => List.mem_append_right _ hnode
  · rename_i answer
    obtain ⟨hstat, hframe⟩ := frame_loopTop { s with
      callbackThreadBlocked := false
      caller := s.caller.signalSyncCond
      callbacks := s.callbacks ++ callback answer }
    exact ⟨⟨hframe.deviceOpen, hframe.period, hframe.of_starting.toDo⟩, .inl hstat⟩

theorem ordered_opened : Ordered opened := ⟨rfl, nofun⟩

theorem Ordered.threadStep (h : Ordered s) (hstep : threadStep s a = some t) : Ordered t := by
  obtain ⟨hframe, hstat⟩ := frame_threadStep hstep
  constructor
  · rw [hframe.deviceOpen]
    rcases hstat with hsame | ⟨node, event, hthr, hidle⟩
    · rw [hsame]
      exact h.open_eq
    · have hnode : node ∈ s.toDo := by simp [State.toDo, hthr, ThreadPc.toDo]
      rw [hidle, (h.current node hnode).1]
      rfl
  · intro node hnode
    rw [hframe.deviceOpen, hframe.period]
    exact h.current node (hframe.toDo node hnode)

theorem toDo_signalMsgCond (pc : ThreadPc) : pc.signalMsgCond.toDo = pc.toDo := by
  cases pc <;> rfl

section
variable (h : Ordered s)
include h

theorem Ordered.sendOffloadMsg (msg : Msg) (allocated : Bool) (hopen : msg ≠ .exit → s.deviceOpen)
    (c : CallerPc) : Ordered { (sendOffloadMsg s msg allocated).1 with caller := c } := by
  unfold Offload.sendOffloadMsg
  split
  · refine ⟨h.open_eq, ?_⟩
    intro node hnode
    simp only [State.toDo, toDo_signalMsgCond, List.filter_append, ← List.append_assoc] at hnode
    rcases List.mem_append.mp hnode with hold | hnew
    · exact h.current node hold
    · obtain ⟨hnew, hwants⟩ := List.mem_filter.mp hnew
      rw [List.mem_singleton.mp hnew] at hwants ⊢
      exact ⟨hopen (of_decide_eq_true hwants), fun _ => rfl⟩
  · exact ⟨h.open_eq, h.current⟩

theorem Ordered.waitIfFull (hopen : s.deviceOpen) (bytes : U64) (answers : WriteAnswers) :
    Ordered (waitIfFull s bytes answers) := by
  unfold Offload.waitIfFull
  split
  · have hsent := h.sendOffloadMsg .waitWrite answers.allocated (fun _ => hopen) s.caller
    rw [← sendOffloadMsg_caller s .waitWrite answers.allocated] at hsent
    exact hsent
  · exact h

theorem Ordered.setStatus {status : Status} (hstat : status.aboveReady = s.status.aboveReady)
    (c : CallerPc) : Ordered { s with status, caller := c } :=
  ⟨h.open_eq.trans hstat.symm, h.current⟩

theorem Ordered.writeBuffer (buffer : Bool) (bytes : U64) (answers : WriteAnswers)
    (hrestart : s.status = .idle → buffer → 0 < bytes → 0 ≤ answers.wrote → answers.startRet = 0 →
      ∀ node ∈ s.toDo, node.msg ≠ .waitPartialDrain) : Ordered (writeBuffer s buffer bytes answers).1 := by
  unfold Offload.writeBuffer
  split
  · rename_i hwrite
    obtain ⟨hready, hbuf, hbytes⟩ := hwrite
    have hopen : s.deviceOpen := h.open_eq.trans hready
    split
    · rename_i hwrote
      split
      · rename_i hidle
        split
        · exact h
        · rename_i hstart
          have hnone := hrestart hidle hbuf hbytes hwrote (not_not.mp hstart)
          have hstarted : Ordered { s with status := .playing, period := s.period + 1 } :=
            ⟨hopen, fun node hnode => ⟨hopen, fun hmsg => absurd hmsg (hnone node hnode)⟩⟩
          exact hstarted.waitIfFull hopen bytes answers
      · exact h.waitIfFull hopen bytes answers
    · exact h
  · exact h

theorem Ordered.toDo_of_standby (hstat : s.status = .standby) : s.toDo = [] := by
  rw [List.eq_nil_iff_forall_not_mem]
  intro node hnode
  have hopen := (h.current node hnode).1
  rw [h.open_eq, hstat] at hopen
  cases hopen

theorem Ordered.outWrite {buffer : Bool} {bytes : U64} {answers : WriteAnswers}
    (horderly : Orderly s (.caller (.write buffer bytes answers))) : Ordered (outWrite s buffer bytes answers).1 := by
  unfold Offload.outWrite
  split
  · rename_i hstby
    have hnone := h.toDo_of_standby hstby
    split
    · exact h.setStatus (by rw [hstby]; rfl) s.caller
    · have hnode : ∀ node ∈ s.toDo, False := by simp [hnone]
      have hopened : Ordered { s with status := .idle, deviceOpen := true } :=
        ⟨rfl, fun node hmem => (hnode node hmem).elim⟩
      refine hopened.writeBuffer buffer bytes answers ?_
      exact fun _ _ _ _ _ node hmem => (hnode node hmem).elim
  · refine h.writeBuffer buffer bytes answers ?_
    intro hidle hbuf hbytes hwrote hstart
    exact horderly.2 (decide_eq_true ⟨hidle, hbuf, hbytes, hwrote, hstart⟩)

end

theorem Ordered.closeDevice (hnone : s.toDo = []) (closing : Bool) : Ordered (closeDevice s closing) := by
  refine ⟨rfl, ?_⟩
  intro node hnode
  rw [show (Offload.closeDevice s closing).toDo = [] from hnone] at hnode
  cases hnode

theorem Ordered.outStandby (h : Ordered s) (closing : Bool)
    (hclose : s.status ≠ .standby → ¬(s.status.aboveIdle ∧ s.callbackThreadBlocked) → s.toDo = []) :
    Ordered (outStandby s closing) := by
  unfold Offload.outStandby
  split
  · exact h.setStatus rfl _
  · rename_i hstat
    split
    · exact h.setStatus rfl _
    · rename_i hblocked
      exact Ordered.closeDevice (hclose hstat hblocked) closing

theorem aboveReady_of_aboveIdle {status : Status} (h : status.aboveIdle) : status.aboveReady := by
  cases status <;> first | rfl | cases h

theorem Ordered.callerStep (h : Ordered s) {a : CallerAction} (horderly : Orderly s (.caller a))
    (hstep : callerStep s a = some t) : Ordered t := by
  unfold Offload.callerStep at hstep
  split at hstep
  case h_12 => cases hstep
  case h_11 =>
    split at hstep
    · cases hstep
      exact h.setStatus rfl _
    · cases hstep
  all_goals cases hstep
  · exact h.outWrite horderly
  · unfold outDrain
    split
    · rename_i earlyNotify allocated _ hidle
      have hopen : s.deviceOpen := h.open_eq.trans (aboveReady_of_aboveIdle hidle)
      have hsent := h.sendOffloadMsg (if earlyNotify then .waitPartialDrain else .waitDrain) allocated
        (fun _ => hopen) s.caller
      rw [← sendOffloadMsg_caller s (if earlyNotify then .waitPartialDrain else .waitDrain) allocated] at hsent
      exact hsent
    · exact ⟨h.open_eq, h.current⟩
  · unfold outPause
    split
    · rename_i hplaying
      split
      · exact h.setStatus (by rw [hplaying]; rfl) _
      · exact h
    · exact h
  · unfold outResume
    split
    · rename_i hpaused
      split
      · exact h.setStatus (by rw [hpaused]; rfl) _
      · exact h
    · exact h
  · unfold outFlush
    split
    · rename_i hidle
      have hsame : Status.idle.aboveReady = s.status.aboveReady := (aboveReady_of_aboveIdle hidle).symm
      exact h.setStatus hsame _
    · exact h
  · exact h.outStandby false (fun hstat hblocked => horderly.1 (by simp_all [closes]))
  · exact h.outStandby true (fun hstat hblocked => horderly.1 (by simp_all [closes]))
  · exact Ordered.closeDevice (horderly.1 rfl) _
  · exact Ordered.closeDevice (horderly.1 rfl) _
  · exact h.sendOffloadMsg .exit _ (fun hexit => absurd rfl hexit) _

theorem Ordered.step (h : Ordered s) {input : Input} (horderly : Orderly s input) (hstep : step s input = some t) :
    Ordered t := by
  cases input with
  | caller a => exact h.callerStep horderly hstep
  | thread a => exact h.threadStep hstep

theorem Ordered.openInCall (h : Ordered s) (hcall : s.thread.inCall) : s.deviceOpen := by
  cases hthr : s.thread with
  | inside node type => exact (h.current node (by simp [State.toDo, hthr, ThreadPc.toDo])).1
  | _ =>
    rw [hthr] at hcall
    cases hcall

theorem Ordered.statusKept (hqueue : Queue s) (h : Ordered s) (hstep : Offload.threadStep s a = some t)
    (hstat : t.status ≠ s.status) : ∃ node event, s.thread = .drained node event ∧ node.period = s.period := by
  rcases (frame_threadStep hstep).2 with hsame | ⟨node, event, hthr, -⟩
  · exact absurd hsame hstat
  · have hsound := hqueue.sound
    rw [hthr] at hsound
    exact ⟨node, event, hthr, (h.current node (by simp [State.toDo, hthr, ThreadPc.toDo])).2 hsound.1⟩

end

/-- With an orderly caller the thread calls an open device, leaves a status that has gone on alone, and answers each
message once. -/
theorem protocol_run {inputs : List Input} {s : State} (horderly : EachDefinedStep step Orderly opened inputs)
    (hrun : inputs.foldlM step opened = some s) : Protocol s := by
  have hkept : Queue s ∧ Ordered s := by
    refine foldlM_keeps_of_eachDefinedStep (P := fun s => Queue s ∧ Ordered s) ?_ ⟨queue_opened, ordered_opened⟩
      horderly hrun
    rintro s t input ⟨hqueue, hord⟩ hinput hstep
    exact ⟨hqueue.step hstep, hord.step hinput hstep⟩
  obtain ⟨hqueue, hord⟩ := hkept
  constructor
  · exact hord.openInCall
  · exact fun a t hstep hstat => hord.statusKept hqueue hstep hstat
  · exact fun node _ => hqueue.length_answersTo_le_one node
  · exact fun node hnode hmsg => hqueue.willBeAnsweredOnce hnode hmsg

def partialWrite : Input := .caller (.write true 4096 { openRet := 0, wrote := 1024, startRet := 0, allocated := true })

def nextTrack : List Input :=
  [.thread .lock, partialWrite, .thread .wake, .thread .enter, .thread (.leave 0), .thread .finish,
    .caller (.drain true true), .thread .wake, .thread .enter, .thread (.leave 0), .thread .enter, .thread (.leave 0),
    .thread .setIdle, .thread .finish, partialWrite, .caller (.pause 0), .caller (.resume 0), .thread .wake,
    .thread .enter, .caller .standby, .thread (.leave 0), .thread .finish, .caller .returnFromWait, .caller .close,
    .caller (.destroyThread true), .thread .wake, .caller .join]

theorem protocol_run_nextTrack :
    ∃ s, nextTrack.foldlM step opened = some s ∧ s.callbacks.length = 3 ∧ s.caller = .closed ∧
      EachDefinedStep step Orderly opened nextTrack ∧ Protocol s := by
  have horderly : EachDefinedStep step Orderly opened nextTrack := by decide
  exact ⟨_, rfl, rfl, rfl, horderly, protocol_run horderly rfl⟩

theorem not_protocol_flushed :
    ¬∀ (inputs : List Input) (s : State), inputs.foldlM step opened = some s → Protocol s := by
  intro h
  have hcall := (h [.thread .lock, partialWrite, .thread .wake, .thread .enter, .caller (.flush 0), .caller .standby]
    _ rfl).openInCall rfl
  cases hcall

end ExynosHal.Audio.Offload
