import ExynosHal.Hwctl
import ExynosHal.Strongbox.Serialization

/-! # Operations of the keymint HAL

`ssp_begin`, `ssp_update_aad`, `ssp_update`, `ssp_finish` and `ssp_abort` over the table of four operations
and the power count. Pointers are not null and allocations succeed; optional arguments are options. The
replies of the trusted application are an input: each says whether the command got through and what the
message holds then.
-/

namespace ExynosHal.Strongbox.Operation
open Library.BitString Hwctl Params Serialization
open BitVec (ofNat)

abbrev KmErrorCode := Int

def kmErrorIncompatibleAlgorithm : KmErrorCode := -5
def kmErrorInvalidOperationHandle : KmErrorCode := -28
def kmErrorTooManyOperations : KmErrorCode := -31
def kmErrorInvalidArgument : KmErrorCode := -38
def kmErrorSecureHwCommunicationFailed : KmErrorCode := -49
def kmErrorUnknownError : KmErrorCode := -1000

def kmErrorCode : KmError → KmErrorCode
  | .invalidTag => -40
  | .insufficientBufferSpace => -29
  | .unknownError => kmErrorUnknownError
  | .invalidArgument => kmErrorInvalidArgument

def kmAlgorithmEc : U32 := 3#32
def kmAlgorithmAes : U32 := 32#32
def kmAlgorithmTripleDes : U32 := 33#32

def cmdSspBegin : U32 := 0x0F#32
def cmdSspUpdate : U32 := 0x10#32
def cmdSspFinish : U32 := 0x11#32
def cmdSspAbort : U32 := 0x12#32

def sspDataSubsampleSize : Nat := 1024 * 4
def sspReservedBufForTagLen : Nat := 16

def inParamsSize : Nat := 6144
def keyblobSize : Nat := 7160
def outParamsSize : Nat := 4 + 4 + 4 + 16
def inputSize : Nat := sspDataSubsampleSize + 128
def outputSize : Nat := sspDataSubsampleSize + sspReservedBufForTagLen + 128
def confirmationTokenSize : Nat := 32
def signatureSize : Nat := 512

structure BeginReply where
  outParamsLen : U32
  outParams : List Byte
  opHandle : U64
  algorithm : U32
  finalLen : U32

/-- The reply fields that `update_t` and `finish_t` have both. -/
structure SubsampleReply where
  outputLen : U32
  outputResultLen : U32
  inputConsumedLen : U32

/-- `ssp_km_message_t` after the command. The command number may have been changed; `otherValid` is
what the checks for the commands of other calls find in it. -/
structure Reply where
  commandId : U32
  kmErrcode : Int
  begin : BeginReply
  update : SubsampleReply
  finish : SubsampleReply
  otherValid : Bool

/-- What `TEEC_InvokeCommand` does. -/
structure Invocation where
  success : Bool
  reply : Reply

def expect (error : KmErrorCode) (condition : Bool) : Except KmErrorCode Unit :=
  if condition then .ok () else .error error

def validateSubsampleReply (reply : SubsampleReply) : Except KmErrorCode Unit := do
  expect kmErrorInvalidArgument (reply.outputLen.toNat ≤ outputSize)
  expect kmErrorInvalidArgument (reply.outputResultLen.toNat ≤ outputSize)
  expect kmErrorInvalidArgument (reply.inputConsumedLen.toNat ≤ inputSize)

def validateIpcRespMessage (reply : Reply) : Except KmErrorCode Unit :=
  if reply.commandId = cmdSspBegin then expect kmErrorInvalidArgument (reply.begin.outParamsLen.toNat ≤ outParamsSize)
  else if reply.commandId = cmdSspUpdate then validateSubsampleReply reply.update
  else if reply.commandId = cmdSspFinish then validateSubsampleReply reply.finish
  else if reply.commandId = cmdSspAbort then .ok ()
  else expect kmErrorInvalidArgument reply.otherValid

def checkReply (reply : Reply) : Except KmErrorCode Unit :=
  if reply.kmErrcode ≠ 0 then .error reply.kmErrcode else validateIpcRespMessage reply

structure SspOperation where
  handle : U64
  algorithm : U32
  finalLen : Nat
  used : Bool

structure Session where
  sspOperation : Vector SspOperation 4
  refcount : Int

def Session.enable (s : Session) : Session := { s with refcount := sspHwctlEnable s.refcount }

def Session.disable (s : Session) : Session := { s with refcount := sspHwctlDisable s.refcount }

/-- `ssp_open` on a session whose algorithms are left as they were. -/
def sspOpen (algorithms : Fin 4 → U32) (refcount : Int) : Session :=
  ⟨Vector.ofFn fun i => ⟨0, algorithms i, 0, false⟩, refcount⟩

def findSspOperationHandle (s : Session) (opHandle : U64) : Option (Fin 4) :=
  (List.finRange 4).find? fun i => (s.sspOperation.get i).used && (s.sspOperation.get i).handle = opHandle

def allocSspOperationBucket (s : Session) : Option (Fin 4) :=
  (List.finRange 4).find? fun i => !(s.sspOperation.get i).used

def setSspOperation (s : Session) (i : Fin 4) (operation : SspOperation) : Session :=
  { s with sspOperation := s.sspOperation.set i.val operation i.isLt }

def freeSspOperationBucket (s : Session) (i : Fin 4) : Session :=
  if (s.sspOperation.get i).used then
    setSspOperation s i { s.sspOperation.get i with used := false, finalLen := 0, handle := 0 }
  else s

def sspExchange (request : Except KmErrorCode Unit) (invocation : Option Invocation) (s : Session) :
    Except KmErrorCode Reply × Session :=
  match request with
  | .error e => (.error e, s)
  | .ok _ =>
    let s := s.enable.disable
    match invocation with
    | none => (.error kmErrorSecureHwCommunicationFailed, s)
    | some invocation =>
      if invocation.success then
        match checkReply invocation.reply with
        | .error e => (.error e, s)
        | .ok _ => (.ok invocation.reply, s)
      else (.error kmErrorSecureHwCommunicationFailed, s)

/-- The length of a token's MAC, if there is a token. -/
abbrev Token := Option Nat

def checkToken (token : Token) : Except KmErrorCode Unit :=
  match token with
  | none => .ok ()
  | some macLength => expect kmErrorInvalidArgument (macLength = 0 || macLength = 32)

/-- `ssp_serializer_serialize_params` without extra parameters, for its length. -/
def serializeInParams (params : List KeyParam) : Except KmErrorCode U32 :=
  match sspSerializerSerializeParams params ⟨false, 0, 0⟩ ⟨0, 0⟩ with
  | .error e => .error (kmErrorCode e)
  | .ok (size, _) => .ok size

structure BeginArgs where
  keyblobLen : Nat
  inParams : List KeyParam
  authToken : Token
  wantsOutParams : Bool

def beginRequest (args : BeginArgs) : Except KmErrorCode Unit := do
  let inParamsLen ← serializeInParams args.inParams
  checkToken args.authToken
  expect kmErrorInvalidArgument (inParamsLen.toNat ≤ inParamsSize)
  expect kmErrorInvalidArgument ((ofNat 32 args.keyblobLen).toNat ≤ keyblobSize)

def beginOutParams (args : BeginArgs) (reply : BeginReply) : Except KmErrorCode (List KeyParam) :=
  if args.wantsOutParams && 0 < reply.outParamsLen.toNat then
    match sspSerializerDeserializeParams (reply.outParams.take reply.outParamsLen.toNat) with
    | .error e => .error (kmErrorCode e)
    | .ok (params, _) => .ok params
  else .ok []

def beginBody (args : BeginArgs) (invocation : Invocation) (s : Session) :
    Except KmErrorCode (U64 × List KeyParam) × Session :=
  match sspExchange (beginRequest args) (some invocation) s with
  | (.error e, s) => (.error e, s)
  | (.ok reply, s) =>
    match beginOutParams args reply.begin with
    | .error e => (.error e, s)
    | .ok outParams =>
      match allocSspOperationBucket s with
      | none => (.error kmErrorTooManyOperations, s)
      | some i =>
        let operation := ⟨reply.begin.opHandle, reply.begin.algorithm, reply.begin.finalLen.toNat, true⟩
        (.ok (reply.begin.opHandle, outParams), setSspOperation s i operation)

def sspBegin (args : BeginArgs) (invocation : Invocation) (s : Session) :
    Except KmErrorCode (U64 × List KeyParam) × Session :=
  match beginBody args invocation s.enable with
  | (.error e, s) => (.error e, s.disable)
  | (.ok out, s) => (.ok out, s)

def disableUnlessInvalidHandle (e : KmErrorCode) (s : Session) : Session :=
  if e ≠ kmErrorInvalidOperationHandle then s.disable else s

def endUpdate {α : Type} (i : Fin 4) (result : Except KmErrorCode α × Session) : Except KmErrorCode α × Session :=
  match result with
  | (.error e, s) => (.error e, freeSspOperationBucket (disableUnlessInvalidHandle e s) i)
  | (.ok out, s) => (.ok out, s)

def endOperation {α : Type} (i : Fin 4) (result : Except KmErrorCode α × Session) : Except KmErrorCode α × Session :=
  match result with
  | (.error e, s) => (.error e, freeSspOperationBucket (disableUnlessInvalidHandle e s) i)
  | (.ok out, s) => (.ok out, freeSspOperationBucket s.disable i)

structure UpdateAadArgs where
  inParams : List KeyParam
  authToken : Token
  timestampToken : Token

def updateAadRequest (args : UpdateAadArgs) (operation : SspOperation) : Except KmErrorCode Unit := do
  let inParamsLen ← serializeInParams args.inParams
  expect kmErrorIncompatibleAlgorithm (operation.algorithm = kmAlgorithmAes)
  checkToken args.authToken
  checkToken args.timestampToken
  expect kmErrorInvalidArgument (inParamsLen.toNat ≤ inParamsSize)

def sspUpdateAad (opHandle : U64) (args : UpdateAadArgs) (invocation : Invocation) (s : Session) :
    Except KmErrorCode Reply × Session :=
  match findSspOperationHandle s opHandle with
  | none => (.error kmErrorInvalidOperationHandle, s)
  | some i => endUpdate i (sspExchange (updateAadRequest args (s.sspOperation.get i)) (some invocation) s)

structure SubsampleArgs where
  authToken : Token
  timestampToken : Token
  signatureLen : Nat
  confirmationTokenLen : Nat
  isFinishOp : Bool

/-- `input_data_eob - input_data`, with `none` for a null `input_data`; `output_eob - output`
likewise, which wraps when more comes back than was asked for. -/
structure SubsampleState where
  inputLeft : Option Nat
  outputLeft : Option U64
  needLastSubsample : Bool
  inputConsumedLen : U32
  outputResultLen : Nat

def isLastSubsample (st : SubsampleState) : Bool :=
  match st.inputLeft with
  | some n => n ≤ sspDataSubsampleSize
  | none => true

def inputBucketLen (st : SubsampleState) : Nat :=
  match st.inputLeft with
  | some n => min n sspDataSubsampleSize
  | none => 0

def outputBucketLen (st : SubsampleState) : U32 :=
  match st.outputLeft with
  | none => 0
  | some n =>
    if isLastSubsample st then n.setWidth 32
    else ofNat 32 (min n.toNat (inputBucketLen st + sspReservedBufForTagLen))

def subsampleRequest (args : SubsampleArgs) (st : SubsampleState) : Except KmErrorCode Unit := do
  checkToken args.authToken
  checkToken args.timestampToken
  if args.isFinishOp && isLastSubsample st then
    expect kmErrorInvalidArgument ((ofNat 32 args.confirmationTokenLen).toNat ≤ confirmationTokenSize)
  expect kmErrorInvalidArgument (inputBucketLen st ≤ inputSize)
  expect kmErrorInvalidArgument ((outputBucketLen st).toNat ≤ outputSize)
  if args.isFinishOp && isLastSubsample st then
    expect kmErrorInvalidArgument ((ofNat 32 args.signatureLen).toNat ≤ signatureSize)

def SubsampleState.advance (st : SubsampleState) (reply : SubsampleReply) : SubsampleState where
  inputLeft := st.inputLeft.bind fun n =>
    if n ≤ reply.inputConsumedLen.toNat then none else some (n - reply.inputConsumedLen.toNat)
  outputLeft := st.outputLeft.map fun n => n - reply.outputResultLen.setWidth 64
  needLastSubsample := false
  inputConsumedLen := st.inputConsumedLen + reply.inputConsumedLen
  outputResultLen := st.outputResultLen + reply.outputResultLen.toNat

def subsampleInputData (args : SubsampleArgs) (invocations : List Invocation) (st : SubsampleState) (s : Session) :
    Except KmErrorCode SubsampleState × Session :=
  if st.inputLeft.isSome || st.needLastSubsample then
    match invocations with
    | [] =>
      let (reply, s) := sspExchange (subsampleRequest args st) none s
      (reply.map fun _ => st, s)
    | invocation :: invocations =>
      match sspExchange (subsampleRequest args st) (some invocation) s with
      | (.error e, s) => (.error e, s)
      | (.ok reply, s) =>
        let sub := if args.isFinishOp && isLastSubsample st then reply.finish else reply.update
        subsampleInputData args invocations (st.advance sub) s
  else (.ok st, s)

structure UpdateArgs where
  inputLen : Nat
  authToken : Token
  timestampToken : Token
  wantsOutput : Bool

/-- Length of the output buffer, with `none` where none is allocated. -/
def updateOutput (args : UpdateArgs) (operation : SspOperation) : Option U64 :=
  if !args.wantsOutput then none
  else if operation.algorithm = kmAlgorithmAes then some (ofNat 64 (args.inputLen + 16))
  else if operation.algorithm = kmAlgorithmTripleDes then some (ofNat 64 (args.inputLen + 8))
  else none

def inputCursor (inputLen : Nat) : Option Nat := if inputLen = 0 then none else some inputLen

/-- Returns `*input_consumed_len` and the length of the output. -/
def sspUpdate (opHandle : U64) (args : UpdateArgs) (invocations : List Invocation) (s : Session) :
    Except KmErrorCode SubsampleState × Session :=
  match findSspOperationHandle s opHandle with
  | none => (.error kmErrorInvalidOperationHandle, s)
  | some i =>
    endUpdate i (subsampleInputData ⟨args.authToken, args.timestampToken, 0, 0, false⟩ invocations
      ⟨inputCursor args.inputLen, updateOutput args (s.sspOperation.get i), false, 0, 0⟩ s)

structure FinishArgs where
  inputLen : Option Nat
  signatureLen : Nat
  confirmationTokenLen : Nat
  authToken : Token
  timestampToken : Token
  wantsOutput : Bool

def finishOutput (args : FinishArgs) (operation : SspOperation) : Option U64 :=
  if !args.wantsOutput then none
  else
    let len := operation.finalLen +
      if operation.algorithm = kmAlgorithmAes || operation.algorithm =
        kmAlgorithmTripleDes then args.inputLen.getD 0 else 0
    let len := if operation.algorithm = kmAlgorithmEc && len = 0 then 32 else len
    if len = 0 then none else some (ofNat 64 len)

def finishBody (args : FinishArgs) (operation : SspOperation) (invocations : List Invocation) (s : Session) :
    Except KmErrorCode SubsampleState × Session :=
  match subsampleInputData ⟨args.authToken, args.timestampToken, args.signatureLen, args.confirmationTokenLen, true⟩
      invocations ⟨args.inputLen.bind inputCursor, finishOutput args operation, true, 0, 0⟩ s with
  | (.error e, s) => (.error e, s)
  | (.ok st, s) =>
    if args.inputLen.all fun len => len = st.inputConsumedLen.toNat then (.ok st, s)
    else (.error kmErrorUnknownError, s)

def sspFinish (opHandle : U64) (args : FinishArgs) (invocations : List Invocation) (s : Session) :
    Except KmErrorCode SubsampleState × Session :=
  match findSspOperationHandle s opHandle with
  | none => (.error kmErrorInvalidOperationHandle, s)
  | some i => endOperation i (finishBody args (s.sspOperation.get i) invocations s)

def sspAbort (opHandle : U64) (invocation : Invocation) (s : Session) : Except KmErrorCode Reply × Session :=
  match findSspOperationHandle s opHandle with
  | none => (.error kmErrorInvalidOperationHandle, s)
  | some i => endOperation i (sspExchange (.ok ()) (some invocation) s)

inductive Call where
  | begin (args : BeginArgs) (invocation : Invocation)
  | updateAad (opHandle : U64) (args : UpdateAadArgs) (invocation : Invocation)
  | update (opHandle : U64) (args : UpdateArgs) (invocations : List Invocation)
  | finish (opHandle : U64) (args : FinishArgs) (invocations : List Invocation)
  | abort (opHandle : U64) (invocation : Invocation)

def step (s : Session) : Call → Session
  | .begin args invocation => (sspBegin args invocation s).2
  | .updateAad opHandle args invocation => (sspUpdateAad opHandle args invocation s).2
  | .update opHandle args invocations => (sspUpdate opHandle args invocations s).2
  | .finish opHandle args invocations => (sspFinish opHandle args invocations s).2
  | .abort opHandle invocation => (sspAbort opHandle invocation s).2

end ExynosHal.Strongbox.Operation
