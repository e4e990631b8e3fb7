import Mathlib.Data.List.Basic
import ExynosHal.Audio.Types
import ExynosHal.Library.Run

/-! # The compress offload stream and its callback thread

The caller of the stream and `offload_cbthread_loop` as two parties over one state. What
either does between taking and dropping the stream lock is one step; a wait on a condition
drops it, and so does the thread around `proxy_offload_compress_func`. The answers of the
proxy and of `calloc` come with the step. The stream is non-blocking and has its callback
set, and routing, which is under the lock of the device, is left to `Streams`.
-/

namespace ExynosHal.Audio.Offload

/-- `offload_msg_type`, without `OFFLOAD_MSG_INVALID`, which is never sent. -/
inductive Msg where
  | waitWrite | waitDrain | waitPartialDrain | exit
  deriving DecidableEq

inductive CompressType where
  | wait | nextTrack | partialDrain | drain
  deriving DecidableEq

/-- `stream_callback_event_t`. -/
inductive Event where
  | writeReady | drainReady | error
  deriving DecidableEq

/-- A node of `msg_list`, with the number of the message among those sent and the period of the stream it
was sent in. -/
structure Node where
  msg : Msg
  number : Nat
  period : Nat
  deriving DecidableEq

/-- Where the callback thread is whenever it does not hold the lock. -/
inductive ThreadPc where
  | starting
  | sleeping (signalled : Bool)
  | entering (node : Node) (type : CompressType)
  | inside (node : Node) (type : CompressType)
  | drained (node : Node) (event : Event)
  | finishing (answer : Option (Node × Event))
  | ended
  deriving DecidableEq

/-- Where the caller is: between two calls, in the wait of `out_standby`, or on its way through
`adev_close_output_stream`. -/
inductive CallerPc where
  | free
  | standbyWait (closing signalled : Bool)
  | destroying
  | joining
  | closed
  deriving DecidableEq

/-- `sent` and `callbacks` are what has been sent and called back so far, `period` counts how often the
stream has been put in standby or restarted by a write. -/
structure State where
  status : Status
  deviceOpen : Bool
  callbackThreadBlocked : Bool
  msgList : List Node
  thread : ThreadPc
  caller : CallerPc
  sent : List Node
  callbacks : List (Option Node × Event)
  period : Nat
  deriving DecidableEq

/-- The stream as `adev_open_output_stream` leaves it. -/
def opened : State :=
  { status := .standby, deviceOpen := false, callbackThreadBlocked := false, msgList := [], thread := .starting,
    caller := .free, sent := [], callbacks := [], period := 0 }

def enomem : Int := -12
def enosys : Int := -38

/-- `pthread_cond_signal` of `msg_cond`, on which only the thread waits. -/
def ThreadPc.signalMsgCond : ThreadPc → ThreadPc
  | .sleeping _ => .sleeping true
  | pc => pc

/-- `pthread_cond_signal` of `sync_cond`, on which only the caller waits. -/
def CallerPc.signalSyncCond : CallerPc → CallerPc
  | .standbyWait closing _ => .standbyWait closing true
  | pc => pc

def State.newNode (s : State) (msg : Msg) : Node := { msg, number := s.sent.length, period := s.period }

def sendOffloadMsg (s : State) (msg : Msg) (allocated : Bool) : State × Int :=
  if allocated then
    ({ s with
      msgList := s.msgList ++ [s.newNode msg]
      sent := s.sent ++ [s.newNode msg]
      thread := s.thread.signalMsgCond }, 0)
  else (s, enomem)

def leaveLoop (s : State) : State := { s with msgList := [], thread := .ended, caller := s.caller.signalSyncCond }

def takeMessage (s : State) (rest : List Node) (node : Node) (type : CompressType) : State :=
  { s with msgList := rest, callbackThreadBlocked := true, thread := .entering node type }

/-- From the test of the list after the wait to the point where the lock is dropped for the `switch`. -/
def recvOffloadMsg (s : State) : State :=
  match s.msgList with
  | [] => { s with callbackThreadBlocked := true, thread := .finishing none }
  | node :: rest =>
    match node.msg with
    | .exit => leaveLoop { s with msgList := rest }
    | .waitWrite => takeMessage s rest node .wait
    | .waitPartialDrain => takeMessage s rest node .nextTrack
    | .waitDrain => takeMessage s rest node .drain

def loopTop (s : State) : State :=
  match s.msgList with
  | [] => { s with thread := .sleeping false }
  | _ :: _ => recvOffloadMsg s

def drainEvent (ret : Int) : Event :=
  if ret ≠ 0 then .error else .drainReady

/-- What the thread does after a call of `proxy_offload_compress_func` has returned `ret`. -/
def afterCall (node : Node) (ret : Int) : CompressType → ThreadPc
  | .wait => .finishing (some (node, .writeReady))
  | .nextTrack => .entering node .partialDrain
  | .partialDrain => .drained node (drainEvent ret)
  | .drain => .finishing (some (node, drainEvent ret))

def callback (answer : Option (Node × Event)) : List (Option Node × Event) :=
  match answer with
  | some (node, event) => [(some node, event)]
  | none => []

/-- After the `switch`: the thread is not blocked any more and calls back, still under the lock, and goes on
to the top of the loop. -/
def finish (s : State) (answer : Option (Node × Event)) : State := loopTop { s with
    callbackThreadBlocked := false
    caller := s.caller.signalSyncCond
    callbacks := s.callbacks ++ callback answer }

inductive ThreadAction where
  | lock
  | wake
  | spuriousWake
  | enter
  | leave (ret : Int)
  | setIdle
  | finish
  deriving DecidableEq

/-- `offload_cbthread_loop`. -/
def threadStep (s : State) (a : ThreadAction) : Option State :=
  match s.thread, a with
  | .starting, .lock => some (loopTop s)
  | .sleeping true, .wake => some (recvOffloadMsg s)
  | .sleeping _, .spuriousWake => some (recvOffloadMsg s)
  | .entering node type, .enter => some { s with thread := .inside node type }
  | .inside node type, .leave ret => some { s with thread := afterCall node ret type }
  | .drained node event, .setIdle => some { s with status := .idle, thread := .finishing (some (node, event)) }
  | .finishing answer, .finish => some (finish s answer)
  | _, _ => none

/-- What the proxy and `calloc` answer during a write. -/
structure WriteAnswers where
  openRet : Int
  wrote : Int
  startRet : Int
  allocated : Bool
  deriving DecidableEq

def waitIfFull (s : State) (bytes : U64) (answers : WriteAnswers) : State :=
  if answers.wrote < bytes.toInt then (sendOffloadMsg s .waitWrite answers.allocated).1 else s

def writeBuffer (s : State) (buffer : Bool) (bytes : U64) (answers : WriteAnswers) : State × Int :=
  if s.status.aboveReady ∧ buffer ∧ 0 < bytes then
    if 0 ≤ answers.wrote then
      if s.status = .idle then
        if answers.startRet ≠ 0 then (s, answers.startRet)
        else (waitIfFull { s with status := .playing, period := s.period + 1 } bytes answers, answers.wrote)
      else (waitIfFull s bytes answers, answers.wrote)
    else (s, answers.wrote)
  else (s, 0)

def outWrite (s : State) (buffer : Bool) (bytes : U64) (answers : WriteAnswers) : State × Int :=
  if s.status = .standby then
    if answers.openRet ≠ 0 then ({ s with status := .ready }, answers.openRet)
    else writeBuffer { s with status := .idle, deviceOpen := true } buffer bytes answers
  else writeBuffer s buffer bytes answers

def outPause (s : State) (ret : Int) : State × Int :=
  if s.status = .playing then (if ret = 0 then { s with status := .paused } else s, ret) else (s, enosys)

def outResume (s : State) (ret : Int) : State × Int :=
  if s.status = .paused then (if ret = 0 then { s with status := .playing } else s, ret) else (s, enosys)

def outDrain (s : State) (earlyNotify : Bool) (allocated : Bool) : State × Int :=
  if s.status.aboveIdle then
    sendOffloadMsg s (if earlyNotify then .waitPartialDrain else .waitDrain) allocated
  else ({ s with callbacks := s.callbacks ++ [(none, .drainReady)] }, enosys)

def outFlush (s : State) (ret : Int) : State × Int :=
  if s.status.aboveIdle then ({ s with status := .idle }, ret) else (s, 0)

def afterStandby (closing : Bool) : CallerPc :=
  if closing then .destroying else .free

def closeDevice (s : State) (closing : Bool) : State :=
  { s with status := .standby, deviceOpen := false, period := s.period + 1, caller := afterStandby closing }

/-- `out_standby` up to its end or its wait. -/
def outStandby (s : State) (closing : Bool) : State :=
  if s.status = .standby then { s with caller := afterStandby closing }
  else if s.status.aboveIdle ∧ s.callbackThreadBlocked then { s with caller := .standbyWait closing false }
  else closeDevice s closing

inductive CallerAction where
  | write (buffer : Bool) (bytes : U64) (answers : WriteAnswers)
  | drain (earlyNotify allocated : Bool)
  | pause (ret : Int)
  | resume (ret : Int)
  | flush (ret : Int)
  | standby
  | close
  | returnFromWait
  | spuriousReturn
  | destroyThread (allocated : Bool)
  | join
  deriving DecidableEq

/-- The calls of the stream. `adev_close_output_stream` is `out_standby`, the EXIT message and the join of the
thread, after which the stream is freed. -/
def callerStep (s : State) (a : CallerAction) : Option State :=
  match s.caller, a with
  | .free, .write buffer bytes answers => some (outWrite s buffer bytes answers).1
  | .free, .drain earlyNotify allocated => some (outDrain s earlyNotify allocated).1
  | .free, .pause ret => some (outPause s ret).1
  | .free, .resume ret => some (outResume s ret).1
  | .free, .flush ret => some (outFlush s ret).1
  | .free, .standby => some (outStandby s false)
  | .free, .close => some (outStandby s true)
  | .standbyWait closing true, .returnFromWait => some (closeDevice s closing)
  | .standbyWait closing _, .spuriousReturn => some (closeDevice s closing)
  | .destroying, .destroyThread allocated =>
    some { (sendOffloadMsg s .exit allocated).1 with caller := .joining }
  | .joining, .join => if s.thread = .ended then some { s with caller := .closed } else none
  | _, _ => none

inductive Input where
  | caller (a : CallerAction)
  | thread (a : ThreadAction)

def step (s : State) : Input → Option State
  | .caller a => callerStep s a
  | .thread a => threadStep s a

end ExynosHal.Audio.Offload
