import ExynosHal.Strongbox.KeyRequests

/-! # All requests

Every call that fills an `ssp_km_message_t`, from its arguments to the message that is sent. What a
message holds besides lengths and buffers is left out. A blob that the code compares with a null
pointer is an option.
-/

namespace ExynosHal.Strongbox.Requests
open Library Library.BitString Params Operation Ipc KeyRequests
open Procedure (total_modify)
open BitVec (ofNat)

def copyPositive (len : Len) (source : List Byte) : Builder Unit := do
  let d ← Procedure.get
  if 0 < (d.message.len len).toNat then copyLen len source else pure ()

def copyMac (field : Field) (token : Option (List Byte)) : Builder Unit :=
  match token with
  | none => pure ()
  | some mac =>
    if mac.length = 0 then pure ()
    else do
      expectTrue kmErrorInvalidArgument (mac.length = 32)
      copy field mac 32

def optionLength (blob : Option (List Byte)) : U32 := ofNat 32 (blob.getD []).length

/-- `ssp_init_ipc`, `ssp_get_hmac_sharing_parameters`, `ssp_early_boot_ended`, `ssp_send_dummy_system_version` and
`ssp_abort` send no buffer. -/
def sendPlain (command : Command) : Builder Unit := do
  start command
  validate

def sspInitIpc : Builder Unit := sendPlain .initIpc

def sspGetHmacSharingParameters : Builder Unit := sendPlain .getHmacSharingParameters

def sspEarlyBootEnded : Builder Unit := sendPlain .earlyBootEnded

def sspSendDummySystemVersion : Builder Unit := sendPlain .setDummySystemVersion

def sspAbort : Builder Unit := sendPlain .abort

/-- The length is a `uint32_t` of its own. -/
def sspSetAttestationData (data : List Byte) (blobLen : U32) : Builder Unit := do
  start .setAttestationData
  setLen .setAttestationData (ofNat 32 data.length)
  setLen .setAttestationBlob blobLen
  validate
  copyLen .setAttestationData data

def sspSetSampleAttestationData (blobLen : U32) : Builder Unit := do
  start .setSampleAttestationData
  setLen .sampleAttestationBlob blobLen
  validate

def sspSendSystemVersion (params : List KeyParam) : Builder Unit := do
  let (paramsBlobSize, paramsBlob) ← serializeParams params 0 0
  start .sendSystemVersion
  setLen .systemVersion paramsBlobSize
  validate
  copyLen .systemVersion paramsBlob

/-- The check is on a `uint32_t`, the copy takes the `size_t`. -/
def sspAddRngEntropy (data : List Byte) : Builder Unit := do
  start .addRngEntropy
  setLen .rngEntropy (ofNat 32 data.length)
  validate
  copy (.of .rngEntropy) data data.length

def sspDeviceLocked (timestampToken : Option (List Byte)) : Builder Unit := do
  start .deviceLocked
  copyMac .timestampTokenMac timestampToken
  validate

/-- `data` may be null though `data_length` is not zero, and the other way round. -/
structure HmacBlob where
  null : Bool
  bytes : List Byte

def HmacBlob.wellFormed (blob : HmacBlob) : Bool :=
  if blob.bytes.length = 0 then blob.null
  else if blob.bytes.length = 32 then !blob.null
  else false

structure HmacSharingParams where
  seed : HmacBlob
  nonce : HmacBlob

def setParamLens : Nat → List HmacSharingParams → Builder Unit
  | _, [] => pure ()
  | i, p :: params => do
    param i
    setLen (.paramSeed i) (ofNat 32 p.seed.bytes.length)
    setLen (.paramNonce i) (ofNat 32 p.nonce.bytes.length)
    setParamLens (i + 1) params

def copyParams : Nat → List HmacSharingParams → Builder Unit
  | _, [] => pure ()
  | i, p :: params => do
    param i
    copyPositive (.paramNonce i) p.nonce.bytes
    copyPositive (.paramSeed i) p.seed.bytes
    copyParams (i + 1) params

def sspComputeSharedHmac (params : List HmacSharingParams) : Builder Unit := do
  expectTrue kmErrorInvalidArgument (1 ≤ params.length)
  expectTrue kmErrorInvalidArgument (params.all fun p => p.seed.wellFormed)
  expectTrue kmErrorInvalidArgument (params.all fun p => p.nonce.wellFormed)
  start .computeSharedHmac
  setLen .paramsCnt (ofNat 32 params.length)
  setParamLens 0 params
  validate
  copyParams 0 params

/-- `memcpy` of all of the bytes, if there are any. -/
def copyNonempty (len : Len) (source : List Byte) : Builder Unit :=
  if 0 < source.length then copy (.of len) source source.length else pure ()

def sspGetKeyCharacteristics (keyBlob : List Byte) (clientId appData : Option (List Byte)) : Builder Unit := do
  expectTrue kmErrorInsufficientBufferSpace ((clientId.getD []).length ≤ 128)
  expectTrue kmErrorInsufficientBufferSpace ((appData.getD []).length ≤ 128)
  start .getKeyCharacteristics
  setLen .charKeyblob (ofNat 32 keyBlob.length)
  setLen .charKeychar (ofNat 32 keyBlob.length)
  setLen .charClientId (optionLength clientId)
  setLen .charAppData (optionLength appData)
  validate
  copyLen .charKeyblob keyBlob
  copyNonempty .charClientId (clientId.getD [])
  copyNonempty .charAppData (appData.getD [])

def startAttest (command : Command) (keyblob attestationBlob : List Byte) (keyparamsLen : U32) : Builder Unit := do
  start command
  setLen .attestKeyblob (ofNat 32 keyblob.length)
  setLen .attestAttestationBlob (ofNat 32 attestationBlob.length)
  setLen .attestKeyparams keyparamsLen
  setLen .attestCertChain (ofNat 32 Len.attestCertChain.limit)

/-- `attestation_blob` gets as many bytes as `keyblob`. -/
def sspSelfAttestKey (attestKeyblob : List Byte) (attestParams : List KeyParam) : Builder Unit := do
  let (paramsBlobSize, paramsBlob) ← serializeParams attestParams 0 0
  startAttest .selfAttestKey attestKeyblob attestKeyblob paramsBlobSize
  validate
  copyLen .attestKeyblob attestKeyblob
  let d ← Procedure.get
  copy (.of .attestAttestationBlob) attestKeyblob (d.message.len .attestKeyblob).toNat
  copyPositive .attestKeyparams paramsBlob

def sspFactoryAttestKey (attestKeyblob : List Byte) (attestParams : List KeyParam) (file : Option (List Byte)) :
    Builder Unit := do
  let (paramsBlobSize, paramsBlob) ← serializeParams attestParams 0 0
  let attestBlob := file.getD []
  expectTrue kmErrorAttestationKeysNotProvisioned (0 < attestBlob.length)
  startAttest .factoryAttestKey attestKeyblob attestBlob paramsBlobSize
  validate
  copyLen .attestKeyblob attestKeyblob
  copyLen .attestAttestationBlob attestBlob
  copyPositive .attestKeyparams paramsBlob

def sspAttestKey (issuerSubject signingKeyblob attestKeyblob : List Byte) (attestParams : List KeyParam) :
    Builder Unit := do
  let (paramsBlobSize, paramsBlob) ← serializeParams attestParams 0 0
  startAttest .attestKey signingKeyblob attestKeyblob paramsBlobSize
  setLen .attestIssuerBlob (ofNat 32 issuerSubject.length)
  validate
  copyLen .attestKeyblob signingKeyblob
  copyPositive .attestIssuerBlob issuerSubject
  copyLen .attestAttestationBlob attestKeyblob
  copyPositive .attestKeyparams paramsBlob

def sspUpgradeKey (keyblobToUpgrade : Option (List Byte)) (upgradeParams : List KeyParam) : Builder Unit := do
  let (paramsBlobSize, paramsBlob) ← serializeParams upgradeParams 0 0
  start .upgradeKey
  setLen .upgradeKeyblob (optionLength keyblobToUpgrade)
  setLen .upgradeKeyparams paramsBlobSize
  setLen .upgradeUpgradedKeyblob (ofNat 32 Len.upgradeUpgradedKeyblob.limit)
  validate
  copyLen .upgradeKeyblob (keyblobToUpgrade.getD [])
  copyLen .upgradeKeyparams paramsBlob

def sspBegin (keyblob : Option (List Byte)) (inParams : List KeyParam) (authToken : Option (List Byte))
    (wantsOutParams : Bool) : Builder Unit := do
  let (inParamsBlobSize, inParamsBlob) ← serializeParams inParams 0 0
  start .begin
  setLen .beginInParams inParamsBlobSize
  setLen .beginKeyblob (optionLength keyblob)
  setLen .beginOutParams (if wantsOutParams then ofNat 32 outParamsSize else 0)
  copyMac .authTokenMac authToken
  validate
  if keyblob.isSome then copyLen .beginKeyblob (keyblob.getD []) else pure ()
  copyLen .beginInParams inParamsBlob

structure Tokens where
  authToken : Option (List Byte)
  timestampToken : Option (List Byte)

def copyTokens (tokens : Tokens) : Builder Unit := do
  copyMac .authTokenMac tokens.authToken
  copyMac .timestampTokenMac tokens.timestampToken

def sspUpdateAad (algorithm : U32) (inParams : List KeyParam) (tokens : Tokens) : Builder Unit := do
  let (inParamsBlobSize, inParamsBlob) ← serializeParams inParams 0 0
  expectTrue kmErrorIncompatibleAlgorithm (algorithm = kmAlgorithmAes)
  start .update
  setLen .updateInParams inParamsBlobSize
  copyTokens tokens
  validate
  copyPositive .updateInParams inParamsBlob

def updateSubsample (tokens : Tokens) (input : List Byte) (outputLen : U32) : Builder Unit := do
  start .update
  setLen .updateInput (ofNat 32 input.length)
  setLen .updateOutput outputLen
  setLen .updateOutputResult outputLen
  copyTokens tokens
  validate
  copyPositive .updateInput input

def finishSubsample (tokens : Tokens) (input : List Byte) (outputLen : U32)
    (signature confirmationToken : Option (List Byte)) : Builder Unit := do
  start .finish
  setLen .finishSignature (optionLength signature)
  setLen .finishConfirmationToken (optionLength confirmationToken)
  setLen .finishInput (ofNat 32 input.length)
  setLen .finishInputConsumed (ofNat 32 input.length)
  setLen .finishOutput outputLen
  setLen .finishOutputResult outputLen
  copyTokens tokens
  validate
  copyPositive .finishInput input
  copyPositive .finishSignature (signature.getD [])
  copyPositive .finishConfirmationToken (confirmationToken.getD [])

structure SameButMacs (m m' : Message) : Prop where
  command : m'.command = m.command
  len : m'.len = m.len
  contents : ∀ len, m'.contents (.of len) = m.contents (.of len)

theorem SameButMacs.trans {m m' m'' : Message} (h : SameButMacs m m') (h' : SameButMacs m' m'') : SameButMacs m m'' :=
  ⟨h'.command.trans h.command, h'.len.trans h.len, fun len => (h'.contents len).trans (h.contents len)⟩

theorem leads_copyMac {field : Field} (hfield : ∀ len, Field.of len ≠ field) (token : Option (List Byte)) (d : Draft) :
    (copyMac field token).Leads d (fun _ d' => SameButMacs d.message d'.message) fun _ => True := by
  have hsame : SameButMacs d.message d.message := ⟨rfl, rfl, fun _ => rfl⟩
  cases token with
  | none => exact hsame
  | some mac =>
    rw [copyMac]
    split_ifs
    · exact hsame
    · refine .bind (Procedure.leads_expect (fun _ => Procedure.leads_modify ⟨rfl, rfl, fun len => ?_⟩) trivial)
      exact if_neg (hfield len)

variable (tokens : Tokens)

theorem leads_copyTokens (d : Draft) :
    (copyTokens tokens).Leads d (fun _ d' => SameButMacs d.message d'.message) fun _ => True := by
  refine .bind ((@leads_copyMac .authTokenMac (fun _ => nofun) _ d).mono (fun _ mid hfst => ?_) fun _ _ => trivial)
  exact (@leads_copyMac .timestampTokenMac (fun _ => nofun) _ mid).mono (fun _ _ hsnd => hfst.trans hsnd) fun _ _ =>
    trivial

theorem total_copyTokens : (copyTokens tokens).Total := by
  have hmac : ∀ (field : Field) (token : Option (List Byte)), (copyMac field token).Total := by
    intro field token
    cases token with
    | none => exact Procedure.total_pure ()
    | some mac =>
      rw [copyMac]
      split_ifs
      · exact Procedure.total_pure ()
      · exact (Procedure.total_expect _ _).bind fun _ => total_modify _
  exact (hmac _ _).bind fun _ => hmac _ _

theorem copyPositive_ok (len : Len) (source : List Byte) (d : Draft) :
    ∃ d', copyPositive len source d = some (d', .ok ()) := by
  have hstep : copyPositive len source d = (if 0 < (d.message.len len).toNat then copyLen len source else pure ()) d :=
    rfl
  rw [hstep]
  split_ifs <;> exact ⟨_, rfl⟩

theorem total_copyPositive (len : Len) (source : List Byte) : (copyPositive len source).Total := fun d =>
  let ⟨d', hrun⟩ := copyPositive_ok len source d
  ⟨d', .ok (), hrun⟩

theorem total_validate : validate.Total := Procedure.total_get.bind fun _ => Procedure.total_ofExcept _

theorem total_updateSubsample (input : List Byte) (outputLen : U32) :
    (updateSubsample tokens input outputLen).Total := by
  iterate 4 refine (total_modify _).bind fun _ => ?_
  exact (total_copyTokens _).bind fun _ => total_validate.bind fun _ => total_copyPositive _ _

theorem total_finishSubsample (input : List Byte) (outputLen : U32)
    (signature confirmationToken : Option (List Byte)) :
    (finishSubsample tokens input outputLen signature confirmationToken).Total := by
  iterate 7 refine (total_modify _).bind fun _ => ?_
  exact (total_copyTokens _).bind fun _ => total_validate.bind fun _ => (total_copyPositive _ _).bind fun _ =>
    (total_copyPositive _ _).bind fun _ => total_copyPositive _ _

inductive Call where
  | initIpc
  | setAttestationData (data : List Byte) (blobLen : U32)
  | setSampleAttestationData (blobLen : U32)
  | sendSystemVersion (params : List KeyParam)
  | getHmacSharingParameters
  | computeSharedHmac (params : List HmacSharingParams)
  | addRngEntropy (data : List Byte)
  | generateKey (params : List KeyParam) (wantsCharacteristics : Bool)
  | getKeyCharacteristics (keyBlob : List Byte) (clientId appData : Option (List Byte))
  | importKey (args : ImportArgs)
  | importWrappedkey (args : ImportWrappedArgs)
  | begin (keyblob : Option (List Byte)) (inParams : List KeyParam) (authToken : Option (List Byte))
      (wantsOutParams : Bool)
  | updateAad (algorithm : U32) (inParams : List KeyParam) (tokens : Tokens)
  | updateSubsample (tokens : Tokens) (input : List Byte) (outputLen : U32)
  | finishSubsample (tokens : Tokens) (input : List Byte) (outputLen : U32)
      (signature confirmationToken : Option (List Byte))
  | abort
  | selfAttestKey (attestKeyblob : List Byte) (attestParams : List KeyParam)
  | factoryAttestKey (attestKeyblob : List Byte) (attestParams : List KeyParam) (file : Option (List Byte))
  | attestKey (issuerSubject signingKeyblob attestKeyblob : List Byte) (attestParams : List KeyParam)
  | upgradeKey (keyblobToUpgrade : Option (List Byte)) (upgradeParams : List KeyParam)
  | deviceLocked (timestampToken : Option (List Byte))
  | earlyBootEnded
  | sendDummySystemVersion

def Call.build : Call → Builder Unit
  | .initIpc => sspInitIpc
  | .setAttestationData data blobLen => sspSetAttestationData data blobLen
  | .setSampleAttestationData blobLen => sspSetSampleAttestationData blobLen
  | .sendSystemVersion params => sspSendSystemVersion params
  | .getHmacSharingParameters => sspGetHmacSharingParameters
  | .computeSharedHmac params => sspComputeSharedHmac params
  | .addRngEntropy data => sspAddRngEntropy data
  | .generateKey params wantsCharacteristics => do
    let _ ← sspGenerateKey params wantsCharacteristics
  | .getKeyCharacteristics keyBlob clientId appData => sspGetKeyCharacteristics keyBlob clientId appData
  | .importKey args => do
    let _ ← sspImportKey args
  | .importWrappedkey args => do
    let _ ← sspImportWrappedkey args
  | .begin keyblob inParams authToken wantsOutParams => sspBegin keyblob inParams authToken wantsOutParams
  | .updateAad algorithm inParams tokens => sspUpdateAad algorithm inParams tokens
  | .updateSubsample tokens input outputLen => Requests.updateSubsample tokens input outputLen
  | .finishSubsample tokens input outputLen signature confirmationToken =>
    Requests.finishSubsample tokens input outputLen signature confirmationToken
  | .abort => sspAbort
  | .selfAttestKey attestKeyblob attestParams => sspSelfAttestKey attestKeyblob attestParams
  | .factoryAttestKey attestKeyblob attestParams file => sspFactoryAttestKey attestKeyblob attestParams file
  | .attestKey issuerSubject signingKeyblob attestKeyblob attestParams =>
    sspAttestKey issuerSubject signingKeyblob attestKeyblob attestParams
  | .upgradeKey keyblobToUpgrade upgradeParams => sspUpgradeKey keyblobToUpgrade upgradeParams
  | .deviceLocked timestampToken => sspDeviceLocked timestampToken
  | .earlyBootEnded => sspEarlyBootEnded
  | .sendDummySystemVersion => sspSendDummySystemVersion

end ExynosHal.Strongbox.Requests
