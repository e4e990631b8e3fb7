import Mathlib.Data.List.Range
import Mathlib.Tactic
import ExynosHal.Audio.Offload

/-! # The messages of an offload stream

Each message is answered once, whatever the caller and the thread do: `msg_list` is a queue
and the thread answers what it has taken before it takes more.
-/

namespace ExynosHal.Audio.Offload
open List (append_nil filter_cons_of_pos foldlM_cons mem_append mem_cons_self mem_filter mem_singleton)

def Msg.answeredBy : Msg → Event → Bool
  | .waitWrite, event => event = .writeReady
  | .waitDrain, event | .waitPartialDrain, event => event = .drainReady ∨ event = .error
  | .exit, _ => false

def State.answersTo (s : State) (node : Node) : List Event := (s.callbacks.filter fun c => c.1 = some node).map Prod.snd

def State.AnsweredOnce (s : State) (node : Node) : Prop :=
  ∃ event, s.answersTo node = [event] ∧ node.msg.answeredBy event

def Input.ofThread : Input → Bool
  | .thread _ => true
  | .caller _ => false

def WillBeAnsweredOnce (s : State) (node : Node) : Prop :=
  (∃ n, ∀ (inputs : List Input) (t : State), n ≤ inputs.countP Input.ofThread →
      inputs.foldlM step s = some t → t.AnsweredOnce node) ∧
  ∃ (acts : List ThreadAction) (t : State), (∀ a ∈ acts, a ≠ .spuriousWake) ∧
    acts.foldlM threadStep s = some t ∧ t.AnsweredOnce node

def Node.wantsAnswer (node : Node) : Bool := node.msg ≠ .exit

def ThreadPc.inHand : ThreadPc → List Node
  | .entering node _ | .inside node _ | .drained node _ | .finishing (some (node, _)) => [node]
  | .starting | .sleeping _ | .finishing none | .ended => []

def Msg.calls : Msg → List CompressType
  | .waitWrite => [.wait]
  | .waitDrain => [.drain]
  | .waitPartialDrain => [.nextTrack, .partialDrain]
  | .exit => []

def ThreadPc.Sound : ThreadPc → Prop
  | .entering node type | .inside node type => type ∈ node.msg.calls
  | .drained node event => node.msg = .waitPartialDrain ∧ node.msg.answeredBy event
  | .finishing (some (node, event)) => node.msg.answeredBy event
  | _ => True

def State.pending (s : State) : List Node := s.thread.inHand ++ s.msgList.filter Node.wantsAnswer

structure Queue (s : State) : Prop where
  numbered : s.sent.map Node.number = List.range s.sent.length
  accounted : s.sent.filter Node.wantsAnswer = s.callbacks.filterMap Prod.fst ++ s.pending
  exitLast : ∀ node ∈ s.msgList.dropLast, node.msg ≠ .exit
  exitSent : ∀ node ∈ s.msgList, node.msg = .exit → s.caller = .joining
  ended : s.thread = .ended → s.msgList = [] ∧ (s.caller = .joining ∨ s.caller = .closed)
  awake : s.thread = .sleeping false → s.msgList = []
  sound : s.thread.Sound
  fits : ∀ node event, (some node, event) ∈ s.callbacks → node.msg.answeredBy event

section
variable {s t : State}

theorem queue_opened : Queue opened := by
  constructor <;> simp [opened, State.pending, ThreadPc.inHand, ThreadPc.Sound]

variable {node : Node}

theorem Queue.number_lt (h : Queue s) (hnode : node ∈ s.sent) : node.number < s.sent.length := by
  have hmem := List.mem_map_of_mem (f := Node.number) hnode
  rw [h.numbered] at hmem
  exact List.mem_range.mp hmem

theorem ThreadPc.inHand_signalMsgCond (pc : ThreadPc) : pc.signalMsgCond.inHand = pc.inHand := by
  cases pc <;> rfl

variable {pc : ThreadPc}

theorem ThreadPc.sound_signalMsgCond (h : pc.Sound) : pc.signalMsgCond.Sound := by
  cases pc with
  | sleeping => trivial
  | _ => exact h

theorem Queue.sendOffloadMsg (h : Queue s) (msg : Msg) (allocated : Bool) {c : CallerPc}
    (hcaller : s.caller ≠ .joining ∧ s.caller ≠ .closed) (hexit : msg = .exit → c = .joining) :
    Queue { (sendOffloadMsg s msg allocated).1 with caller := c } := by
  have hnone : ∀ node ∈ s.msgList, node.msg ≠ .exit := fun node hnode hmsg => hcaller.1 (h.exitSent node hnode hmsg)
  have hrunning : s.thread ≠ .ended := by
    intro hended
    rcases (h.ended hended).2 with hjoining | hclosed
    · exact hcaller.1 hjoining
    · exact hcaller.2 hclosed
  unfold Offload.sendOffloadMsg
  split
  · refine ⟨?_, ?_, ?_, ?_, ?_, ?_, ThreadPc.sound_signalMsgCond h.sound, h.fits⟩
    · simp [h.numbered, State.newNode, List.range_succ]
    · simp [h.accounted, State.pending, ThreadPc.inHand_signalMsgCond]
    · simpa using hnone
    · intro node hnode hmsg
      rcases mem_append.mp hnode with hold | hnew
      · exact absurd hmsg (hnone node hold)
      · rw [mem_singleton.mp hnew] at hmsg
        exact hexit hmsg
    · intro hended
      revert hended hrunning
      cases s.thread <;> simp [ThreadPc.signalMsgCond]
    · intro hasleep
      revert hasleep
      cases s.thread <;> simp [ThreadPc.signalMsgCond]
  · refine ⟨h.numbered, h.accounted, h.exitLast, ?_, ?_, h.awake, h.sound, h.fits⟩
    · intro node hnode hmsg
      exact absurd hmsg (hnone node hnode)
    · intro hended
      exact absurd hended hrunning

theorem CallerPc.signalSyncCond_joining {c : CallerPc} : c.signalSyncCond = .joining ↔ c = .joining := by
  cases c <;> simp [CallerPc.signalSyncCond]

theorem Queue.starting (h : Queue s) (hthr : s.thread.inHand = []) : Queue { s with thread := .starting } := by
  refine ⟨h.numbered, ?_, h.exitLast, h.exitSent, nofun, nofun, trivial, h.fits⟩
  have haccounted := h.accounted
  rw [State.pending, hthr] at haccounted
  exact haccounted

variable {rest : List Node} {type : CompressType}

theorem Queue.takeMessage (h : Queue { s with thread := .starting })
    (hlist : s.msgList = node :: rest) (htype : type ∈ node.msg.calls) :
    Queue (takeMessage s rest node type) := by
  have hwants : node.wantsAnswer := by
    unfold Node.wantsAnswer
    cases hmsg : node.msg <;> simp_all [Msg.calls]
  refine ⟨h.numbered, ?_, ?_, ?_, nofun, nofun, htype, h.fits⟩
  · have haccounted := h.accounted
    simp only [State.pending, ThreadPc.inHand, hlist, List.nil_append, filter_cons_of_pos hwants] at haccounted
    exact haccounted
  · intro n hn
    apply h.exitLast n
    show n ∈ s.msgList.dropLast
    rw [hlist]
    cases rest with
    | nil => cases hn
    | cons _ _ => exact List.mem_cons_of_mem _ hn
  · intro n hn
    apply h.exitSent n
    show n ∈ s.msgList
    rw [hlist]
    exact List.mem_cons_of_mem _ hn

theorem Queue.leaveLoop (h : Queue { s with thread := .starting })
    (hlist : s.msgList = node :: rest) (hexit : node.msg = .exit) : Queue (leaveLoop { s with msgList := rest }) := by
  -- EXIT comes last, so that nothing is dropped with the list.
  have hrest : rest = [] := by
    cases rest with
    | nil => rfl
    | cons next rest =>
      refine absurd hexit (h.exitLast node ?_)
      show node ∈ s.msgList.dropLast
      rw [hlist]
      exact mem_cons_self
  have hjoining : s.caller = .joining := h.exitSent node (hlist ▸ mem_cons_self) hexit
  refine ⟨h.numbered, ?_, nofun, nofun, ?_, nofun, trivial, h.fits⟩
  · have haccounted := h.accounted
    simp only [State.pending, ThreadPc.inHand, hlist, hrest] at haccounted
    simpa [State.pending, ThreadPc.inHand, Offload.leaveLoop, Node.wantsAnswer, hexit] using haccounted
  · intro
    exact ⟨rfl, .inl (CallerPc.signalSyncCond_joining.mpr hjoining)⟩

theorem Queue.recvOffloadMsg (h : Queue { s with thread := .starting }) : Queue (recvOffloadMsg s) := by
  unfold Offload.recvOffloadMsg
  split
  · exact ⟨h.numbered, h.accounted, h.exitLast, h.exitSent, nofun, nofun, trivial, h.fits⟩
  · rename_i node rest hlist
    split
    · rename_i hmsg
      exact h.leaveLoop hlist hmsg
    all_goals
      rename_i hmsg
      exact h.takeMessage hlist (by simp [hmsg, Msg.calls])

theorem Queue.loopTop (h : Queue { s with thread := .starting }) : Queue (loopTop s) := by
  unfold Offload.loopTop
  split
  · rename_i hlist
    exact ⟨h.numbered, h.accounted, h.exitLast, h.exitSent, nofun, fun _ => hlist, trivial, h.fits⟩
  · exact h.recvOffloadMsg

theorem filterMap_callback (answer : Option (Node × Event)) :
    (callback answer).filterMap Prod.fst = (ThreadPc.finishing answer).inHand := by
  cases answer <;> rfl

theorem Queue.finish (h : Queue s) {answer : Option (Node × Event)} (hthr : s.thread = .finishing answer) :
    Queue (finish s answer) := by
  apply Queue.loopTop
  refine ⟨h.numbered, ?_, h.exitLast, ?_, nofun, nofun, trivial, ?_⟩
  · have haccounted := h.accounted
    rw [State.pending, hthr] at haccounted
    simp only [State.pending, List.filterMap_append, filterMap_callback]
    rw [haccounted, List.append_assoc]
    rfl
  · intro node hnode hmsg
    exact CallerPc.signalSyncCond_joining.mpr (h.exitSent node hnode hmsg)
  · intro node event hmem
    rcases mem_append.mp hmem with hold | hnew
    · exact h.fits node event hold
    · have hsound := h.sound
      rw [hthr] at hsound
      cases answer with
      | none => cases hnew
      | some a =>
        cases mem_singleton.mp hnew
        exact hsound

theorem answeredBy_drainEvent {msg : Msg} (h : msg = .waitDrain ∨ msg = .waitPartialDrain) (ret : Int) :
    msg.answeredBy (drainEvent ret) := by
  unfold drainEvent
  rcases h with rfl | rfl
  all_goals split <;> rfl

theorem sound_afterCall (h : type ∈ node.msg.calls) (ret : Int) :
    (afterCall node ret type).Sound ∧ (afterCall node ret type).inHand = [node] := by
  cases hmsg : node.msg <;> rw [hmsg] at h
  · cases mem_singleton.mp h
    exact ⟨by simp [afterCall, ThreadPc.Sound, hmsg, Msg.answeredBy], rfl⟩
  · cases mem_singleton.mp h
    exact ⟨answeredBy_drainEvent (.inl hmsg) ret, rfl⟩
  · rcases List.mem_pair.mp h with rfl | rfl
    · exact ⟨by simp [afterCall, ThreadPc.Sound, hmsg, Msg.calls], rfl⟩
    · exact ⟨⟨hmsg, answeredBy_drainEvent (.inr hmsg) ret⟩, rfl⟩
  · cases h

theorem Queue.goOn (h : Queue s) (status : Status) (hnode : s.thread.inHand = [node])
    (hpc : pc.inHand = [node]) (hsound : pc.Sound) : Queue { s with status, thread := pc } := by
  refine ⟨h.numbered, ?_, h.exitLast, h.exitSent, ?_, ?_, hsound, h.fits⟩
  · have haccounted := h.accounted
    rw [State.pending, hnode] at haccounted
    rw [State.pending, hpc]
    exact haccounted
  · intro hended
    rw [show pc = .ended from hended] at hpc
    cases hpc
  · intro hasleep
    rw [show pc = .sleeping false from hasleep] at hpc
    cases hpc

variable {a : ThreadAction}

theorem Queue.threadStep (h : Queue s) (hstep : threadStep s a = some t) : Queue t := by
  have hsound := h.sound
  unfold Offload.threadStep at hstep
  split at hstep
  case h_8 => cases hstep
  all_goals
    rename_i hthr
    rw [hthr] at hsound
    cases hstep
  · exact (h.starting (by rw [hthr]; rfl)).loopTop
  · exact (h.starting (by rw [hthr]; rfl)).recvOffloadMsg
  · exact (h.starting (by rw [hthr]; rfl)).recvOffloadMsg
  · exact h.goOn s.status (by rw [hthr]; rfl) rfl hsound
  · obtain ⟨hafter, hhand⟩ := sound_afterCall hsound _
    exact h.goOn s.status (by rw [hthr]; rfl) hhand hafter
  · exact h.goOn .idle (by rw [hthr]; rfl) rfl hsound.2
  · exact h.finish hthr

def CallerPc.inUse (c : CallerPc) : Prop := c ≠ .joining ∧ c ≠ .closed

@[simp]
theorem sendOffloadMsg_caller (s : State) (msg : Msg) (allocated : Bool) :
    (sendOffloadMsg s msg allocated).1.caller = s.caller := by
  unfold sendOffloadMsg
  split <;> rfl

section
variable (h : Queue s)
include h

theorem Queue.setStatus (hcaller : s.caller.inUse) (status : Status) (deviceOpen : Bool) (period : Nat)
    (c : CallerPc) : Queue { s with status, deviceOpen, period, caller := c } := by
  refine ⟨h.numbered, h.accounted, h.exitLast, ?_, ?_, h.awake, h.sound, h.fits⟩
  · intro node hnode hmsg
    exact absurd (h.exitSent node hnode hmsg) hcaller.1
  · intro hended
    rcases (h.ended hended).2 with hjoining | hclosed
    · exact absurd hjoining hcaller.1
    · exact absurd hclosed hcaller.2

theorem Queue.send (hcaller : s.caller.inUse) {msg : Msg} (hmsg : msg ≠ .exit) (allocated : Bool) :
    Queue (Offload.sendOffloadMsg s msg allocated).1 := by
  have hsent := h.sendOffloadMsg msg allocated (c := s.caller) hcaller (fun hexit => absurd hexit hmsg)
  rw [← sendOffloadMsg_caller s msg allocated] at hsent
  exact hsent

theorem Queue.waitIfFull (hcaller : s.caller.inUse) (bytes : U64) (answers : WriteAnswers) :
    Queue (waitIfFull s bytes answers) := by
  unfold Offload.waitIfFull
  split
  · exact h.send hcaller (by decide) answers.allocated
  · exact h

theorem Queue.writeBuffer (hcaller : s.caller.inUse) (buffer : Bool) (bytes : U64)
    (answers : WriteAnswers) : Queue (writeBuffer s buffer bytes answers).1 := by
  unfold Offload.writeBuffer
  split
  · split
    · split
      · split
        · exact h
        · exact (h.setStatus hcaller .playing s.deviceOpen (s.period + 1) s.caller).waitIfFull hcaller bytes answers
      · exact h.waitIfFull hcaller bytes answers
    · exact h
  · exact h

theorem Queue.outWrite (hcaller : s.caller.inUse) (buffer : Bool) (bytes : U64)
    (answers : WriteAnswers) : Queue (outWrite s buffer bytes answers).1 := by
  unfold Offload.outWrite
  split
  · split
    · exact h.setStatus hcaller .ready s.deviceOpen s.period s.caller
    · exact (h.setStatus hcaller .idle true s.period s.caller).writeBuffer hcaller buffer bytes answers
  · exact h.writeBuffer hcaller buffer bytes answers

theorem Queue.outDrain (hcaller : s.caller.inUse) (earlyNotify allocated : Bool) :
    Queue (outDrain s earlyNotify allocated).1 := by
  unfold Offload.outDrain
  split
  · exact h.send hcaller (by cases earlyNotify <;> decide) allocated
  · refine ⟨h.numbered, ?_, h.exitLast, h.exitSent, h.ended, h.awake, h.sound, ?_⟩
    · simpa [State.pending] using h.accounted
    · intro node event hmem
      apply h.fits node event
      simpa using hmem

theorem Queue.outStandby (hcaller : s.caller.inUse) (closing : Bool) : Queue (outStandby s closing) := by
  unfold Offload.outStandby
  split
  · exact h.setStatus hcaller s.status s.deviceOpen s.period (afterStandby closing)
  · split
    · exact h.setStatus hcaller s.status s.deviceOpen s.period (.standbyWait closing false)
    · exact h.setStatus hcaller .standby false (s.period + 1) (afterStandby closing)

theorem Queue.callerStep {a : CallerAction} (hstep : callerStep s a = some t) : Queue t := by
  unfold Offload.callerStep at hstep
  split at hstep
  case h_12 => cases hstep
  case h_11 hcaller =>
    split at hstep
    · rename_i hended
      cases hstep
      exact ⟨h.numbered, h.accounted, h.exitLast, by simp [(h.ended hended).1],
        fun _ => ⟨(h.ended hended).1, .inr rfl⟩, h.awake, h.sound, h.fits⟩
    · cases hstep
  all_goals
    rename_i hcaller
    have huse : s.caller.inUse := by
      rw [hcaller]
      exact ⟨nofun, nofun⟩
    cases hstep
  · exact h.outWrite huse _ _ _
  · exact h.outDrain huse _ _
  · unfold outPause
    split
    · split
      · exact h.setStatus huse .paused s.deviceOpen s.period s.caller
      · exact h
    · exact h
  · unfold outResume
    split
    · split
      · exact h.setStatus huse .playing s.deviceOpen s.period s.caller
      · exact h
    · exact h
  · unfold outFlush
    split
    · exact h.setStatus huse .idle s.deviceOpen s.period s.caller
    · exact h
  · exact h.outStandby huse false
  · exact h.outStandby huse true
  · exact h.setStatus huse .standby false (s.period + 1) _
  · exact h.setStatus huse .standby false (s.period + 1) _
  · exact h.sendOffloadMsg .exit _ huse (fun _ => rfl)

theorem Queue.step {input : Input} (hstep : step s input = some t) : Queue t := by
  cases input with
  | caller a => exact h.callerStep hstep
  | thread a => exact h.threadStep hstep

end

theorem length_answersTo (s : State) (node : Node) :
    (s.answersTo node).length = (s.callbacks.filterMap Prod.fst).count node := by
  unfold State.answersTo
  rw [List.length_map]
  induction s.callbacks with
  | nil => rfl
  | cons c callbacks ih =>
    obtain ⟨answered, event⟩ := c
    cases answered with
    | none => simpa using ih
    | some n =>
      by_cases hn : n = node <;> simp [hn, ih]

theorem Queue.nodup (h : Queue s) : (s.callbacks.filterMap Prod.fst ++ s.pending).Nodup := by
  have hsent : s.sent.Nodup := by
    apply List.Nodup.of_map Node.number
    rw [h.numbered]
    exact List.nodup_range
  rw [← h.accounted]
  exact hsent.filter _

theorem Queue.length_answersTo_le_one (h : Queue s) (node : Node) : (s.answersTo node).length ≤ 1 := by
  rw [length_answersTo]
  exact List.nodup_iff_count_le_one.mp (List.nodup_append.mp h.nodup).1 node

theorem Queue.answeredOnce (h : Queue s) (hnode : node ∈ s.sent) (hmsg : node.msg ≠ .exit)
    (hdone : node ∉ s.pending) : s.AnsweredOnce node := by
  have hmem : node ∈ s.sent.filter Node.wantsAnswer := mem_filter.mpr ⟨hnode, by simpa [Node.wantsAnswer] using hmsg⟩
  rw [h.accounted, mem_append, or_iff_left hdone] at hmem
  have hone : (s.answersTo node).length = 1 := by
    have hpos := List.count_pos_iff.mpr hmem
    have hle := h.length_answersTo_le_one node
    rw [length_answersTo] at hle ⊢
    omega
  obtain ⟨event, hevent⟩ := List.length_eq_one_iff.mp hone
  refine ⟨event, hevent, h.fits node event ?_⟩
  have hanswer : event ∈ s.answersTo node := hevent ▸ mem_cons_self
  obtain ⟨⟨answered, e⟩, hc, rfl⟩ := List.mem_map.mp hanswer
  obtain ⟨hc, hanswered⟩ := mem_filter.mp hc
  rw [← show answered = some node from of_decide_eq_true hanswered]
  exact hc

/-! ### Exactly once

The thread takes a bounded number of steps for what it has in hand and for each message
up to a given one; what is sent later comes after it. -/

def Msg.cost : Msg → Nat
  | .waitWrite | .waitDrain => 3
  | .waitPartialDrain => 6
  | .exit => 0

def ThreadPc.remaining : ThreadPc → Nat
  | .starting | .sleeping _ => 1
  | .entering _ .nextTrack => 6
  | .inside _ .nextTrack => 5
  | .entering _ .partialDrain => 4
  | .inside _ .partialDrain => 3
  | .drained _ _ => 2
  | .entering _ .wait | .entering _ .drain => 3
  | .inside _ .wait | .inside _ .drain => 2
  | .finishing _ => 1
  | .ended => 0

def queueWork (list : List Node) (k : Nat) : Nat :=
  ((list.filter fun node => node.number ≤ k).map fun node => node.msg.cost).sum

def State.work (s : State) (k : Nat) : Nat := s.thread.remaining + queueWork s.msgList k

def Sorted (list : List Node) : Prop :=
  (list.filter Node.wantsAnswer).Pairwise fun first second => first.number < second.number

theorem Queue.sorted (h : Queue s) : Sorted s.msgList := by
  have hpair : (s.sent.map Node.number).Pairwise (· < ·) := by
    rw [h.numbered]
    exact List.pairwise_lt_range
  have hpair := (List.pairwise_map.mp hpair).filter Node.wantsAnswer
  rw [h.accounted] at hpair
  exact (List.pairwise_append.mp (List.pairwise_append.mp hpair).2.1).2.1

variable {n : Node}

theorem takeMessage_work (hlist : s.msgList = node :: rest)
    (hsorted : Sorted s.msgList) (htype : type ∈ node.msg.calls.head?)
      (hn : n ∈ (takeMessage s rest node type).pending) :
    n ∈ s.msgList.filter Node.wantsAnswer ∧ (takeMessage s rest node type).work n.number ≤
      queueWork s.msgList n.number := by
  have hwants : node.wantsAnswer := by
    unfold Node.wantsAnswer
    cases hmsg : node.msg <;> simp_all [Msg.calls]
  have hcost : (ThreadPc.entering node type).remaining = node.msg.cost := by
    cases hmsg : node.msg <;> simp_all [Msg.calls, Msg.cost] <;> rw [← htype] <;> rfl
  rw [Sorted, hlist, filter_cons_of_pos hwants, List.pairwise_cons] at hsorted
  have hle : node.number ≤ n.number := by
    rcases List.mem_cons.mp hn with rfl | hn
    · exact Nat.le_refl _
    · exact (hsorted.1 n hn).le
  rw [hlist, filter_cons_of_pos hwants]
  refine ⟨hn, ?_⟩
  rw [queueWork, filter_cons_of_pos (by simpa using hle), List.map_cons, List.sum_cons, ← hcost]
  exact Nat.le_refl _

theorem recvOffloadMsg_work (hsorted : Sorted s.msgList) (hn : n ∈ (recvOffloadMsg s).pending) :
    n ∈ s.msgList.filter Node.wantsAnswer ∧ (recvOffloadMsg s).work n.number ≤ queueWork s.msgList n.number := by
  unfold recvOffloadMsg at hn ⊢
  split at hn
  · rename_i hlist
    simp [State.pending, ThreadPc.inHand, hlist] at hn
  · rename_i node rest hlist
    split at hn
    · simp [State.pending, ThreadPc.inHand, leaveLoop] at hn
    all_goals
      rename_i hmsg
      simp only [hlist] at hn ⊢
      rw [← hlist]
      exact takeMessage_work hlist hsorted (by simp [hmsg, Msg.calls]) hn

theorem loopTop_work (hsorted : Sorted s.msgList) (hn : n ∈ (loopTop s).pending) :
    n ∈ s.msgList.filter Node.wantsAnswer ∧ (loopTop s).work n.number ≤ queueWork s.msgList n.number := by
  unfold loopTop at hn ⊢
  split at hn
  · rename_i hlist
    simp [State.pending, ThreadPc.inHand, hlist] at hn
  · rename_i hlist
    simp only [hlist]
    rw [← hlist]
    exact recvOffloadMsg_work hsorted hn

theorem atTop_work (hthr : s.thread.remaining = 1)
    (h : n ∈ s.msgList.filter Node.wantsAnswer ∧ t.work n.number ≤ queueWork s.msgList n.number) :
    n ∈ s.pending ∧ t.work n.number < s.work n.number := by
  refine ⟨List.mem_append_right _ h.1, ?_⟩
  have hwork : s.work n.number = 1 + queueWork s.msgList n.number := by
    rw [State.work, hthr]
  omega

theorem goOn_work {status : Status} (hhand : pc.inHand = s.thread.inHand)
    (hless : pc.remaining < s.thread.remaining) (hn : n ∈ State.pending { s with status, thread := pc }) :
    n ∈ s.pending ∧ State.work { s with status, thread := pc } n.number < s.work n.number := by
  refine ⟨?_, Nat.add_lt_add_right hless _⟩
  rw [State.pending, ← hhand]
  exact hn

theorem Queue.threadStep_work (h : Queue s) (hstep : Offload.threadStep s a = some t)
    (hn : n ∈ t.pending) : n ∈ s.pending ∧ t.work n.number < s.work n.number := by
  unfold Offload.threadStep at hstep
  split at hstep
  case h_8 => cases hstep
  all_goals
    rename_i hthr
    cases hstep
  · exact atTop_work (by rw [hthr]; rfl) (loopTop_work h.sorted hn)
  iterate 2 exact atTop_work (by rw [hthr]; rfl) (recvOffloadMsg_work h.sorted hn)
  · rename_i node type
    refine goOn_work (by rw [hthr]; rfl) ?_ hn
    rw [hthr]
    cases type <;> simp [ThreadPc.remaining]
  · rename_i node type ret
    refine goOn_work ?_ ?_ hn
    · rw [hthr]
      cases type <;> rfl
    · rw [hthr]
      cases type <;> simp [afterCall, ThreadPc.remaining]
  · refine goOn_work (by rw [hthr]; rfl) ?_ hn
    simp [hthr, ThreadPc.remaining]
  · refine atTop_work (by rw [hthr]; rfl) (loopTop_work ?_ hn)
    exact h.sorted

def Extends (s t : State) : Prop :=
  ∃ new, (∀ n ∈ new, s.sent.length ≤ n.number) ∧ t.sent = s.sent ++ new ∧ t.msgList = s.msgList ++ new ∧
    (t.thread = s.thread ∨ t.thread = s.thread.signalMsgCond)

theorem Extends.of_eq (hsent : t.sent = s.sent) (hlist : t.msgList = s.msgList) (hthr : t.thread = s.thread) :
    Extends s t :=
  ⟨[], nofun, by rw [hsent, append_nil], by rw [hlist, append_nil], .inl hthr⟩

theorem extends_sendOffloadMsg (s : State) (msg : Msg) (allocated : Bool) :
    Extends s (sendOffloadMsg s msg allocated).1 := by
  unfold sendOffloadMsg
  split
  · exact ⟨[s.newNode msg], by simp [State.newNode], rfl, rfl, .inr rfl⟩
  · exact .of_eq rfl rfl rfl

theorem extends_waitIfFull (s : State) (bytes : U64) (answers : WriteAnswers) :
    Extends s (waitIfFull s bytes answers) := by
  unfold waitIfFull
  split
  · exact extends_sendOffloadMsg s .waitWrite answers.allocated
  · exact .of_eq rfl rfl rfl

theorem extends_writeBuffer (s : State) (buffer : Bool) (bytes : U64) (answers : WriteAnswers) :
    Extends s (writeBuffer s buffer bytes answers).1 := by
  unfold writeBuffer
  split
  · split
    · split
      · split
        · exact .of_eq rfl rfl rfl
        · exact extends_waitIfFull { s with status := .playing, period := s.period + 1 } bytes answers
      · exact extends_waitIfFull s bytes answers
    · exact .of_eq rfl rfl rfl
  · exact .of_eq rfl rfl rfl

theorem extends_callerStep {a : CallerAction} (hstep : callerStep s a = some t) : Extends s t := by
  unfold callerStep at hstep
  split at hstep
  case h_12 => cases hstep
  case h_11 =>
    split at hstep
    · cases hstep
      exact .of_eq rfl rfl rfl
    · cases hstep
  all_goals cases hstep
  · unfold outWrite
    split
    · split
      · exact .of_eq rfl rfl rfl
      · exact extends_writeBuffer { s with status := .idle, deviceOpen := true } _ _ _
    · exact extends_writeBuffer s _ _ _
  · unfold outDrain
    split
    · exact extends_sendOffloadMsg s _ _
    · exact .of_eq rfl rfl rfl
  · unfold outPause
    split
    · split <;> exact .of_eq rfl rfl rfl
    · exact .of_eq rfl rfl rfl
  · unfold outResume
    split
    · split <;> exact .of_eq rfl rfl rfl
    · exact .of_eq rfl rfl rfl
  · unfold outFlush
    split <;> exact .of_eq rfl rfl rfl
  · unfold outStandby
    split
    · exact .of_eq rfl rfl rfl
    · split <;> exact .of_eq rfl rfl rfl
  · unfold outStandby
    split
    · exact .of_eq rfl rfl rfl
    · split <;> exact .of_eq rfl rfl rfl
  · exact .of_eq rfl rfl rfl
  · exact .of_eq rfl rfl rfl
  · exact extends_sendOffloadMsg s .exit _

theorem Extends.work (h : Extends s t) (hold : n.number < s.sent.length) (hn : n ∈ t.pending) :
    n ∈ s.pending ∧ t.work n.number = s.work n.number := by
  obtain ⟨new, hnew, -, hlist, hthr⟩ := h
  have hhand : t.thread.inHand = s.thread.inHand := by
    rcases hthr with hthr | hthr
    · rw [hthr]
    · rw [hthr, ThreadPc.inHand_signalMsgCond]
  have hremaining : t.thread.remaining = s.thread.remaining := by
    rcases hthr with hthr | hthr
    · rw [hthr]
    · rw [hthr]
      cases s.thread <;> rfl
  constructor
  · rw [State.pending, hhand, hlist, List.filter_append, ← List.append_assoc] at hn
    rcases mem_append.mp hn with hs | hlater
    · exact hs
    · have hle := hnew n (mem_filter.mp hlater).1
      omega
  · have hlater : (new.filter fun node => node.number ≤ n.number) = [] := by
      rw [List.filter_eq_nil_iff]
      intro node hnode
      have hle := hnew node hnode
      simp only [decide_eq_true_eq]
      omega
    rw [State.work, State.work, hremaining, hlist, queueWork, List.filter_append, hlater, append_nil]
    rfl

theorem recvOffloadMsg_sent (s : State) : (recvOffloadMsg s).sent = s.sent := by
  unfold recvOffloadMsg
  split
  · rfl
  · split <;> rfl

theorem loopTop_sent (s : State) : (loopTop s).sent = s.sent := by
  unfold loopTop
  split
  · rfl
  · exact recvOffloadMsg_sent s

theorem threadStep_sent (hstep : threadStep s a = some t) : t.sent = s.sent := by
  unfold threadStep at hstep
  split at hstep
  case h_8 => cases hstep
  all_goals cases hstep
  · exact loopTop_sent s
  · exact recvOffloadMsg_sent s
  · exact recvOffloadMsg_sent s
  · rfl
  · rfl
  · rfl
  · exact loopTop_sent _

theorem Queue.step_work (h : Queue s) {input : Input} (hstep : Offload.step s input = some t)
    (hn : n ∈ s.sent) : n ∈ t.sent ∧ (n ∈ t.pending →
      n ∈ s.pending ∧ t.work n.number + (if input.ofThread then 1 else 0) ≤ s.work n.number) := by
  cases input with
  | caller a =>
    have hextends := extends_callerStep hstep
    refine ⟨?_, fun hpend => ?_⟩
    · obtain ⟨new, -, hsent, -⟩ := hextends
      rw [hsent]
      exact List.mem_append_left _ hn
    · obtain ⟨hmem, hwork⟩ := hextends.work (h.number_lt hn) hpend
      exact ⟨hmem, hwork.le⟩
  | thread a =>
    refine ⟨?_, fun hpend => h.threadStep_work hstep hpend⟩
    rw [threadStep_sent hstep]
    exact hn

theorem Queue.work_run (h : Queue s) (hn : n ∈ s.sent) {inputs : List Input}
    (hrun : inputs.foldlM Offload.step s = some t) : Queue t ∧ n ∈ t.sent ∧ (n ∈ t.pending →
      n ∈ s.pending ∧ t.work n.number + inputs.countP Input.ofThread ≤ s.work n.number) := by
  induction inputs generalizing s with
  | nil =>
    cases hrun
    exact ⟨h, hn, fun hpend => ⟨hpend, Nat.le_refl _⟩⟩
  | cons input inputs ih =>
    rw [foldlM_cons, Option.bind_eq_bind, Option.bind_eq_some_iff] at hrun
    obtain ⟨next, hnext, hrest⟩ := hrun
    obtain ⟨hnextSent, hfst⟩ := h.step_work hnext hn
    obtain ⟨ht, hsent, hlater⟩ := ih (h.step hnext) hnextSent hrest
    refine ⟨ht, hsent, fun hpend => ?_⟩
    obtain ⟨hnextPend, hle⟩ := hlater hpend
    obtain ⟨hspending, hnextLe⟩ := hfst hnextPend
    rw [List.countP_cons]
    exact ⟨hspending, by omega⟩

theorem Queue.exists_threadStep (h : Queue s) (hn : n ∈ s.pending) :
    ∃ a t, a ≠ .spuriousWake ∧ Offload.threadStep s a = some t := by
  have hlist : s.thread.inHand = [] → s.msgList ≠ [] := by
    intro hhand hnil
    rw [State.pending, hhand, hnil] at hn
    cases hn
  cases hthr : s.thread with
  | starting => exact ⟨.lock, _, by decide, by unfold Offload.threadStep; rw [hthr]⟩
  | sleeping signalled =>
    cases signalled with
    | true => exact ⟨.wake, _, by decide, by unfold Offload.threadStep; rw [hthr]⟩
    | false => exact absurd (h.awake hthr) (hlist (by rw [hthr]; rfl))
  | entering node type => exact ⟨.enter, _, by decide, by unfold Offload.threadStep; rw [hthr]⟩
  | inside node type => exact ⟨.leave 0, _, by decide, by unfold Offload.threadStep; rw [hthr]⟩
  | drained node event => exact ⟨.setIdle, _, by decide, by unfold Offload.threadStep; rw [hthr]⟩
  | finishing answer => exact ⟨.finish, _, by decide, by unfold Offload.threadStep; rw [hthr]⟩
  | ended => exact absurd (h.ended hthr).1 (hlist (by rw [hthr]; rfl))

theorem Queue.exists_threadRun (h : Queue s) (hn : n ∈ s.sent) :
    ∃ (acts : List ThreadAction) (t : State), (∀ a ∈ acts, a ≠ .spuriousWake) ∧
      acts.foldlM Offload.threadStep s = some t ∧ Queue t ∧ n ∈ t.sent ∧ n ∉ t.pending := by
  -- A step of the thread leaves less to do for the message, as long as it is pending.
  induction hwork : s.work n.number using Nat.strong_induction_on generalizing s with
  | _ work ih =>
    by_cases hpend : n ∈ s.pending
    · obtain ⟨a, next, ha, hnext⟩ := h.exists_threadStep hpend
      have hqueue := h.threadStep hnext
      have hsent : n ∈ next.sent := threadStep_sent hnext ▸ hn
      by_cases hstill : n ∈ next.pending
      · have hless := (h.threadStep_work hnext hstill).2
        obtain ⟨acts, t, hacts, hrun, ht⟩ := ih _ (hwork ▸ hless) hqueue hsent rfl
        refine ⟨a :: acts, t, List.forall_mem_cons.mpr ⟨ha, hacts⟩, ?_, ht⟩
        rw [foldlM_cons, hnext]
        exact hrun
      · refine ⟨[a], next, by simpa using ha, ?_, hqueue, hsent, hstill⟩
        rw [foldlM_cons, hnext]
        rfl
    · exact ⟨[], s, nofun, rfl, h, hn, hpend⟩

theorem Queue.willBeAnsweredOnce (h : Queue s) (hnode : node ∈ s.sent) (hmsg : node.msg ≠ .exit) :
    WillBeAnsweredOnce s node := by
  constructor
  · refine ⟨s.work node.number + 1, ?_⟩
    intro inputs t hcnt hrun
    obtain ⟨ht, hsent, hwork⟩ := h.work_run hnode hrun
    refine ht.answeredOnce hsent hmsg ?_
    intro hpend
    have hle := (hwork hpend).2
    omega
  · obtain ⟨acts, t, hacts, hrun, ht, hsent, hdone⟩ := h.exists_threadRun hnode
    exact ⟨acts, t, hacts, hrun, ht.answeredOnce hsent hmsg hdone⟩

end

end ExynosHal.Audio.Offload
