import ExynosHal.Hwctl
import ExynosHal.Library.BitString

/-! # Weaver device

`WeaverDeviceImpl` with its throttle list, the power count and the file that
keeps the list over a restart. What the trusted application does is an input of
every call: whether the command got through, and the message buffer as it is
afterwards. File writes succeed.
-/

namespace ExynosHal.Weaver.Device
open Library.BitString Hwctl
open BitVec (ofNat)

def maxSlotSize : Nat := 16
def maxKeySize : Nat := 32
def maxValueSize : Nat := 32
def minKeySize : Nat := 16
def minValueSize : Nat := 16

def cmdWeaverInitIpc : U32 := 1#32
def cmdWeaverGetConfig : U32 := 2#32
def cmdWeaverRead : U32 := 3#32
def cmdWeaverWrite : U32 := 4#32

def weaverStatusFailed : Byte := 1#8
def weaverReadOk : Byte := 0#8
def weaverReadThrottle : Byte := 3#8

/-- The errors the HAL raises itself, and those it passes on. -/
inductive WeaverError where
  | secureHwCommunicationFailed
  | invalidArgument
  | invaildKeySize
  | invaildValueSize
  | replied (weaverErrcode : U32)
  deriving DecidableEq

abbrev ThrottleList := Vector Byte 16

structure Config where
  slots : U32
  keySize : U32
  valueSize : U32
  deriving DecidableEq

/-- `ssp_weaver_message_t`, less its reserved bytes. -/
structure Message where
  commandId : U32
  weaverErrcode : U32
  config : Config
  slotId : Byte
  key : List Byte
  keySize : Byte
  value : List Byte
  valueSize : Byte
  throttle : U32
  thList : ThrottleList
  readStatus : Byte
  status : Byte
  deriving DecidableEq

def Message.zero : Message where
  commandId := 0
  weaverErrcode := 0
  config := ⟨0, 0, 0⟩
  slotId := 0
  key := []
  keySize := 0
  value := []
  valueSize := 0
  throttle := 0
  thList := Vector.replicate 16 0
  readStatus := 0
  status := 0

/-- What `TEEC_InvokeCommand` does: its result and the shared message buffer. -/
structure Invocation where
  success : Bool
  message : Message

def expect (error : WeaverError) (condition : Bool) : Except WeaverError Unit :=
  if condition then .ok () else .error error

def validateIpcReqMessage (msg : Message) : Except WeaverError Unit :=
  if msg.commandId = cmdWeaverInitIpc then .ok ()
  else if msg.commandId = cmdWeaverGetConfig then .ok ()
  else if msg.commandId = cmdWeaverRead then do
    expect .invalidArgument (msg.slotId.toNat ≤ maxSlotSize)
    expect .invalidArgument (msg.keySize.toNat ≤ maxKeySize && minKeySize ≤ msg.keySize.toNat)
  else if msg.commandId = cmdWeaverWrite then do
    expect .invalidArgument (msg.slotId.toNat < maxSlotSize)
    expect .invalidArgument (msg.keySize.toNat ≤ maxKeySize && minKeySize ≤ msg.keySize.toNat)
    expect .invalidArgument (msg.valueSize.toNat ≤ maxValueSize && minValueSize ≤ msg.valueSize.toNat)
  else .error .invalidArgument

def validateIpcRespMessage (msg : Message) : Except WeaverError Unit :=
  if msg.commandId = cmdWeaverInitIpc then .ok ()
  else if msg.commandId = cmdWeaverGetConfig then .ok ()
  else if msg.commandId = cmdWeaverRead then
    expect .invalidArgument (msg.valueSize.toNat ≤ maxValueSize && minValueSize ≤ msg.valueSize.toNat)
  else if msg.commandId = cmdWeaverWrite then .ok ()
  else .error .invalidArgument

def checkReply (msg : Message) : Except WeaverError Unit :=
  if msg.weaverErrcode ≠ 0 then .error (.replied msg.weaverErrcode) else validateIpcRespMessage msg

structure WeaverState where
  list : ThrottleList
  refcount : Int
  /-- `throttle_list.dat`. -/
  file : Option (List Byte)
  hwSupported : Bool
  deriving DecidableEq

def WeaverState.enable (s : WeaverState) : WeaverState := { s with refcount := sspHwctlEnable s.refcount }

def WeaverState.disable (s : WeaverState) : WeaverState := { s with refcount := sspHwctlDisable s.refcount }

def throttleCheck (s : WeaverState) : Nat × WeaverState :=
  let list := match s.file with
    | some content =>
      if 0 < content.length ∧ content.length ≤ maxSlotSize then
        Vector.ofFn fun i : Fin 16 => content.getD i (s.list.get i)
      else s.list
    | none => s.list
  (list.countP fun entry => entry ≠ 0, { s with list := list })

def saveThList (s : WeaverState) : WeaverState := { s with file := some s.list.toList }

def isSlotIdThrottle (s : WeaverState) (slotId : Fin 16) : Bool := s.list.get slotId ≠ 0

def slotThrottleOn (s : WeaverState) (slotId : Fin 16) :
    WeaverState := { s with list := s.list.set slotId.val 1 slotId.isLt }

def slotThrottleOff (s : WeaverState) (slotId : Fin 16) :
    WeaverState := { s with list := s.list.set slotId.val 0 slotId.isLt }

def sspTransact (invocation : Invocation) (s : WeaverState) : Bool × WeaverState :=
  (invocation.success, s.enable.disable)

/-- Leaves it enabled for the caller to disable, and does not touch it for a slot with throttle. -/
def sspReadTransact (slotId : Fin 16) (invocation : Invocation) (s : WeaverState) : Bool × WeaverState :=
  let s := if isSlotIdThrottle s slotId then s else s.enable
  if invocation.success then (true, s)
  else if isSlotIdThrottle s slotId then (false, s)
  else (false, s.disable)

def weaverInitIpc (invocation : Invocation) (s : WeaverState) : Except WeaverError Unit × WeaverState :=
  let s := (throttleCheck s).2
  match validateIpcReqMessage { Message.zero with commandId := cmdWeaverInitIpc, thList := s.list } with
  | .error e => (.error e, s)
  | .ok _ =>
    match sspTransact invocation s with
    | (false, s) => (.error .secureHwCommunicationFailed, s)
    | (true, s) =>
      match checkReply invocation.message with
      | .error e => (.error e, s)
      | .ok _ =>
        let s := saveThList { s with list := invocation.message.thList }
        let (numberOfThrottleSlot, s) := throttleCheck s
        (.ok (), WeaverState.enable^[numberOfThrottleSlot] s)

def getConfig (invocation : Invocation) (s : WeaverState) : Option (Byte × Config) × WeaverState :=
  if s.hwSupported then
    match validateIpcReqMessage { Message.zero with commandId := cmdWeaverGetConfig } with
    | .error _ => (none, s)
    | .ok _ =>
      match sspTransact invocation s with
      | (false, s) => (none, s)
      | (true, s) =>
        match checkReply invocation.message with
        | .error _ => (none, s)
        | .ok _ => (some (invocation.message.status, invocation.message.config), s)
  else (none, s)

def isKeyVaild (keySize : Nat) : Except WeaverError Unit :=
  expect .invaildKeySize (minKeySize ≤ keySize && keySize ≤ maxKeySize)

def isValueVaild (valueSize : Nat) : Except WeaverError Unit :=
  expect .invaildValueSize (minValueSize ≤ valueSize && valueSize ≤ maxValueSize)

structure ReadResponse where
  status : Byte
  timeout : U32
  value : List Byte
  deriving DecidableEq

def readEnd (slotId : Fin 16) (msg : Message) (s : WeaverState) : ReadResponse × WeaverState :=
  if msg.readStatus = weaverReadThrottle then
    (⟨msg.readStatus, msg.throttle, []⟩, saveThList (slotThrottleOn s slotId))
  else
    -- the copy is not bounded here: a size over 32 overruns the caller's buffer
    let value := if msg.readStatus = weaverReadOk then msg.value.take msg.valueSize.toNat else []
    (⟨msg.readStatus, 0, value⟩, saveThList (slotThrottleOff s slotId).disable)

def readRequest (slotId : Fin 16) (key : List Byte) : Message := { Message.zero with
    commandId := cmdWeaverRead
    slotId := ofNat 8 slotId.val
    key := key
    keySize := ofNat 8 key.length }

/-- A failed transport and the checks of the reply only choose what is logged: all of them go on at `end`. -/
def read (slotId : Fin 16) (key : List Byte) (invocation : Invocation) (s : WeaverState) :
    Option ReadResponse × WeaverState :=
  match isKeyVaild key.length with
  | .error _ => (none, s)
  | .ok _ =>
    let (response, s) := match validateIpcReqMessage (readRequest slotId key) with
      | .error _ => readEnd slotId (readRequest slotId key) s
      | .ok _ => readEnd slotId invocation.message (sspReadTransact slotId invocation s).2
    (some response, s)

def writeRequest (slotId : Fin 16) (key value : List Byte) : Message := { Message.zero with
    commandId := cmdWeaverWrite
    slotId := ofNat 8 slotId.val
    key := key
    keySize := ofNat 8 key.length
    value := value
    valueSize := ofNat 8 value.length }

def write (slotId : Fin 16) (key value : List Byte) (invocation : Invocation) (s : WeaverState) : Byte × WeaverState :=
  match (do
      isKeyVaild key.length; isValueVaild value.length; validateIpcReqMessage (writeRequest slotId key value)) with
  | .error _ => (weaverStatusFailed, s)
  | .ok _ =>
    match sspTransact invocation s with
    | (false, s) => (weaverStatusFailed, s)
    | (true, s) =>
      match checkReply invocation.message with
      | .error _ => (weaverStatusFailed, s)
      | .ok _ => (invocation.message.status, slotThrottleOff s slotId)

inductive Call where
  | getConfig (invocation : Invocation)
  | read (slotId : Fin 16) (key : List Byte) (invocation : Invocation)
  | write (slotId : Fin 16) (key value : List Byte) (invocation : Invocation)

def step (s : WeaverState) : Call → WeaverState
  | .getConfig invocation => (getConfig invocation s).2
  | .read slotId key invocation => (read slotId key invocation s).2
  | .write slotId key value invocation => (write slotId key value invocation s).2

end ExynosHal.Weaver.Device
