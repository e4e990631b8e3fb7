import ExynosHal.Library.Procedure
import ExynosHal.Strongbox.Operation

/-! # Messages to the trusted application

`ssp_km_message_t` by its lengths and the buffers that they belong to.
-/

namespace ExynosHal.Strongbox.Ipc
open Library Library.BitString Operation

inductive Command where
  | initIpc
  | sendSystemVersion
  | getHmacSharingParameters
  | computeSharedHmac
  | verifyAuthorization
  | addRngEntropy
  | generateKey
  | getKeyCharacteristics
  | importKey
  | importWrappedKey
  | exportKey
  | factoryAttestKey
  | selfAttestKey
  | attestKey
  | upgradeKey
  | deleteKey
  | deleteAllKeys
  | destroyAttestationIds
  | begin
  | update
  | finish
  | abort
  | deviceLocked
  | earlyBootEnded
  | setAttestationData
  | loadAttestationData
  | setSampleAttestationData
  | setDummySystemVersion
  deriving DecidableEq

/-- A length in the message, by the command and the buffer. -/
inductive Len where
  | systemVersion
  | hmacSeed
  | hmacNonce
  | paramsCnt
  | paramSeed (i : Nat)
  | paramNonce (i : Nat)
  | sharingCheck
  | rngEntropy
  | generateKeyparams
  | generateKeyblob
  | generateKeychar
  | charKeyblob
  | charClientId
  | charAppData
  | charKeychar
  | importKeyparams
  | importKeydata
  | importKeyblob
  | importKeychar
  | wrappedKeyparams
  | wrappedEncryptedTransportKey
  | wrappedKeyDescription
  | wrappedEncryptedKey
  | wrappedIv
  | wrappedTag
  | wrappedMaskingKey
  | wrappedWrappingKeyblob
  | wrappedUnwrappingParamsBlob
  | wrappedKeyblob
  | wrappedKeychar
  | attestKeyblob
  | attestKeyparams
  | attestCertChain
  | attestAttestationBlob
  | attestIssuerBlob
  | upgradeKeyblob
  | upgradeKeyparams
  | upgradeUpgradedKeyblob
  | beginInParams
  | beginKeyblob
  | beginOutParams
  | updateInParams
  | updateInput
  | updateOutput
  | updateOutputResult
  | updateInputConsumed
  | finishConfirmationToken
  | finishInput
  | finishSignature
  | finishInputConsumed
  | finishOutput
  | finishOutputResult
  | setAttestationData
  | setAttestationBlob
  | loadAttestationBlob
  | sampleAttestationBlob
  deriving DecidableEq

def keyCharacteristicsCommonMaxLen : Nat := 2040
def parsedKeyDataMaxLen : Nat := 3072
def supportedAlgorithMaxKeyLen : Nat := 2048
def attestationDataMaxLen : Nat := 13312
def hmacSharingParamMaxCnt : Nat := 2

def Len.limit : Len → Nat
  | systemVersion => 32
  | hmacSeed | hmacNonce | paramSeed _ | paramNonce _ | sharingCheck => 32
  | paramsCnt => hmacSharingParamMaxCnt
  | rngEntropy => 2 * 1024
  | generateKeyparams | generateKeychar | charKeychar | importKeyparams | importKeychar =>
    keyCharacteristicsCommonMaxLen
  | wrappedKeyparams | wrappedKeyDescription | wrappedUnwrappingParamsBlob | wrappedKeychar =>
    keyCharacteristicsCommonMaxLen
  | attestKeyparams | upgradeKeyparams => keyCharacteristicsCommonMaxLen
  | generateKeyblob | charKeyblob | importKeyblob | wrappedWrappingKeyblob | wrappedKeyblob => keyblobSize
  | attestKeyblob | upgradeKeyblob | upgradeUpgradedKeyblob | beginKeyblob => keyblobSize
  | charClientId | charAppData => 128
  | importKeydata => parsedKeyDataMaxLen
  | wrappedEncryptedTransportKey => 512
  | wrappedEncryptedKey => supportedAlgorithMaxKeyLen
  | wrappedIv | wrappedTag | wrappedMaskingKey => 32
  | attestCertChain => 2048 * 4
  | attestAttestationBlob | setAttestationData | setAttestationBlob | loadAttestationBlob => attestationDataMaxLen
  | sampleAttestationBlob => attestationDataMaxLen
  | attestIssuerBlob => 64
  | beginInParams | updateInParams => inParamsSize
  | beginOutParams => outParamsSize
  | updateInput | updateInputConsumed | finishInput | finishInputConsumed => inputSize
  | updateOutput | updateOutputResult | finishOutput | finishOutputResult => outputSize
  | finishConfirmationToken => confirmationTokenSize
  | finishSignature => signatureSize

inductive Field where
  | of (len : Len)
  | authTokenMac
  | timestampTokenMac
  deriving DecidableEq

def Field.size : Field → Nat
  | .of len => len.limit
  | .authTokenMac => 32
  | .timestampTokenMac => 32

/-- An id that no command has is `none`. -/
structure Message where
  command : Option Command
  kmErrcode : Int
  len : Len → U32
  contents : Field → List Byte

def Message.within (m : Message) (len : Len) : Bool := (m.len len).toNat ≤ len.limit

def Message.check (m : Message) (lens : List Len) : Except KmErrorCode Unit :=
  expect kmErrorInvalidArgument (lens.all m.within)

/-- The first length of `set_attestation_data` has a block added to it, as a `uint32_t`. -/
def checkSetAttestationData (m : Message) : Except KmErrorCode Unit := do
  expect kmErrorInvalidArgument ((m.len .setAttestationData + 16#32).toNat ≤ attestationDataMaxLen)
  m.check [.setAttestationBlob]

def attestLens : List Len := [.attestAttestationBlob, .attestKeyblob, .attestKeyparams, .attestCertChain]

def wrappedLens : List Len :=
  [.wrappedKeyparams, .wrappedEncryptedTransportKey, .wrappedKeyDescription, .wrappedEncryptedKey, .wrappedIv,
    .wrappedTag,
    .wrappedMaskingKey, .wrappedWrappingKeyblob, .wrappedUnwrappingParamsBlob, .wrappedKeyblob, .wrappedKeychar]

def validateIpcReqMessage (m : Message) : Except KmErrorCode Unit :=
  match m.command with
  | none => .error kmErrorInvalidArgument
  | some .initIpc => .ok ()
  | some .sendSystemVersion => m.check [.systemVersion]
  | some .getHmacSharingParameters => .ok ()
  | some .computeSharedHmac => m.check [.paramsCnt, .paramSeed 0, .paramNonce 0, .paramSeed 1, .paramNonce 1]
  | some .verifyAuthorization => .ok ()
  | some .addRngEntropy => m.check [.rngEntropy]
  | some .generateKey => m.check [.generateKeyparams, .generateKeyblob, .generateKeychar]
  | some .getKeyCharacteristics => m.check [.charKeyblob, .charClientId, .charAppData, .charKeychar]
  | some .importKey => m.check [.importKeyparams, .importKeydata, .importKeyblob, .importKeychar]
  | some .importWrappedKey => m.check wrappedLens
  | some .exportKey => .ok ()
  | some .factoryAttestKey => m.check attestLens
  | some .selfAttestKey => m.check attestLens
  | some .attestKey => m.check attestLens
  | some .upgradeKey => m.check [.upgradeKeyblob, .upgradeKeyparams, .upgradeUpgradedKeyblob]
  | some .deleteKey => .ok ()
  | some .deleteAllKeys => .ok ()
  | some .destroyAttestationIds => .ok ()
  | some .begin => m.check [.beginInParams, .beginKeyblob, .beginOutParams]
  | some .update => m.check [.updateInParams, .updateInput, .updateOutput, .updateOutputResult]
  | some .finish => m.check [.finishConfirmationToken, .finishInput, .finishOutput, .finishOutputResult,
      .finishSignature]
  | some .abort => .ok ()
  | some .deviceLocked => .ok ()
  | some .earlyBootEnded => .ok ()
  | some .setAttestationData => checkSetAttestationData m
  | some .loadAttestationData => m.check [.loadAttestationBlob]
  | some .setSampleAttestationData => m.check [.sampleAttestationBlob]
  | some .setDummySystemVersion => .ok ()

def validateIpcRespMessage (m : Message) : Except KmErrorCode Unit :=
  match m.command with
  | none => .error kmErrorInvalidArgument
  | some .initIpc => .ok ()
  | some .sendSystemVersion => .ok ()
  | some .getHmacSharingParameters => m.check [.hmacSeed, .hmacNonce]
  | some .computeSharedHmac => m.check [.sharingCheck]
  | some .verifyAuthorization => .ok ()
  | some .addRngEntropy => .ok ()
  | some .generateKey => m.check [.generateKeyblob, .generateKeychar]
  | some .getKeyCharacteristics => m.check [.charKeychar]
  | some .importKey => m.check [.importKeyblob, .importKeychar]
  | some .importWrappedKey => m.check [.wrappedKeyblob, .wrappedKeychar]
  | some .exportKey => .ok ()
  | some .factoryAttestKey => m.check [.attestCertChain]
  | some .selfAttestKey => m.check [.attestCertChain]
  | some .attestKey => m.check [.attestCertChain]
  | some .upgradeKey => m.check [.upgradeUpgradedKeyblob]
  | some .deleteKey => .ok ()
  | some .deleteAllKeys => .ok ()
  | some .destroyAttestationIds => .ok ()
  | some .begin => m.check [.beginOutParams]
  | some .update => m.check [.updateOutput, .updateOutputResult, .updateInputConsumed]
  | some .finish => m.check [.finishOutput, .finishOutputResult, .finishInputConsumed]
  | some .abort => .ok ()
  | some .deviceLocked => .ok ()
  | some .earlyBootEnded => .ok ()
  | some .setAttestationData => m.check [.setAttestationBlob]
  | some .loadAttestationData => .ok ()
  | some .setSampleAttestationData => m.check [.sampleAttestationBlob]
  | some .setDummySystemVersion => .ok ()

def checkReply (m : Message) : Except KmErrorCode Unit :=
  if m.kmErrcode ≠ 0 then .error m.kmErrcode else validateIpcRespMessage m

def reqLens : Command → List Len
  | .sendSystemVersion => [.systemVersion]
  | .computeSharedHmac => [.paramsCnt, .paramSeed 0, .paramNonce 0, .paramSeed 1, .paramNonce 1]
  | .addRngEntropy => [.rngEntropy]
  | .generateKey => [.generateKeyparams, .generateKeyblob, .generateKeychar]
  | .getKeyCharacteristics => [.charKeyblob, .charClientId, .charAppData, .charKeychar]
  | .importKey => [.importKeyparams, .importKeydata, .importKeyblob, .importKeychar]
  | .importWrappedKey => wrappedLens
  | .factoryAttestKey | .selfAttestKey | .attestKey => attestLens
  | .upgradeKey => [.upgradeKeyblob, .upgradeKeyparams, .upgradeUpgradedKeyblob]
  | .begin => [.beginInParams, .beginKeyblob, .beginOutParams]
  | .update => [.updateInParams, .updateInput, .updateOutput, .updateOutputResult]
  | .finish => [.finishConfirmationToken, .finishInput, .finishOutput, .finishOutputResult, .finishSignature]
  | .loadAttestationData => [.loadAttestationBlob]
  | .setSampleAttestationData => [.sampleAttestationBlob]
  | _ => []

theorem check_eq_ok_iff {m : Message} {lens : List Len} :
    m.check lens = .ok () ↔ ∀ len ∈ lens, (m.len len).toNat ≤ len.limit := by
  have hiff : lens.all m.within = true ↔ ∀ len ∈ lens, (m.len len).toNat ≤ len.limit := by
    simp only [List.all_eq_true, Message.within, decide_eq_true_eq]
  rw [Message.check, expect, ← hiff]
  cases lens.all m.within <;> simp

theorem validate_iff {command : Command} {m : Message} (hcmd : m.command = some command)
    (hplain : command ≠ .setAttestationData) :
    validateIpcReqMessage m = .ok () ↔ ∀ len ∈ reqLens command, (m.len len).toNat ≤ len.limit := by
  cases command
  case setAttestationData => exact absurd rfl hplain
  all_goals
    simp only [validateIpcReqMessage, hcmd]
    first
      | exact check_eq_ok_iff
      | exact iff_of_true trivial fun len hmem => absurd hmem List.not_mem_nil

inductive Access where
  | copy (field : Field) (len : Nat)
  | param (i : Nat)
  deriving DecidableEq

def Access.Inside : Access → Prop
  | .copy field len => len ≤ field.size
  | .param i => i < hmacSharingParamMaxCnt

structure Draft where
  message : Message
  accesses : List Access := []

def Message.zero : Message := ⟨none, 0, fun _ => 0, fun _ => []⟩

abbrev Builder := Procedure Draft KmErrorCode

def start (command : Command) : Builder Unit :=
  Procedure.modify fun d => { d with message := { Message.zero with command := some command } }

def setLen (len : Len) (value : U32) : Builder Unit := Procedure.modify fun d =>
    { d with message := { d.message with len := fun l => if l = len then value else d.message.len l } }

def copy (field : Field) (source : List Byte) (len : Nat) : Builder Unit := Procedure.modify fun d =>
    { message := { d.message with contents := fun f => if f = field then source.take len else d.message.contents f },
      accesses := d.accesses ++ [.copy field len] }

def copyLen (len : Len) (source : List Byte) : Builder Unit := do
  let d ← Procedure.get
  copy (.of len) source (d.message.len len).toNat

/-- `ssp_msg.compute_shared_hmac.params[i]`. -/
def param (i : Nat) : Builder Unit := Procedure.modify fun d => { d with accesses := d.accesses ++ [.param i] }

def validate : Builder Unit := do
  let d ← Procedure.get
  Procedure.ofExcept (validateIpcReqMessage d.message)

def expectTrue (error : KmErrorCode) (condition : Bool) : Builder Unit := Procedure.expect error condition

theorem validate_bind_eq_ok_iff {α : Type} {f : Unit → Builder α} {d d' : Draft} {a : α} :
    (validate >>= f) d = some (d', .ok a) ↔ validateIpcReqMessage d.message = .ok () ∧ f () d = some (d', .ok a) := by
  have hsame : (validate >>= f) d = (Procedure.ofExcept (validateIpcReqMessage d.message) >>= f) d := rfl
  rw [hsame, Procedure.ofExcept_bind_eq_ok_iff]
  constructor
  · rintro ⟨_, hvalid, hrest⟩
    exact ⟨hvalid, hrest⟩
  · rintro ⟨hvalid, hrest⟩
    exact ⟨(), hvalid, hrest⟩

theorem validate_bind_of_ok {α : Type} {f : Unit → Builder α} {d : Draft}
    (h : validateIpcReqMessage d.message = .ok ()) : (validate >>= f) d = f () d := by
  show (Procedure.ofExcept (validateIpcReqMessage d.message) >>= f) d = f () d
  rw [h]
  rfl

def run {α : Type} (b : Builder α) : Option (Draft × Except KmErrorCode α) := b ⟨Message.zero, []⟩

def InsideFields {α : Type} (b : Builder α) : Prop :=
  ∀ d result, run b = some (d, result) → ∀ access ∈ d.accesses, access.Inside

end ExynosHal.Strongbox.Ipc
