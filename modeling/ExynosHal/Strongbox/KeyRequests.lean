import ExynosHal.Strongbox.AuthorizationList
import ExynosHal.Strongbox.Ipc
import ExynosHal.Strongbox.ParsedKey

/-! # Requests about keys

`ssp_generate_key`, `ssp_import_key` and `ssp_import_wrappedkey`, from their arguments to the
message that is sent. Pointers that are not checked are not null and allocations succeed. Writing behind the end
of a buffer on the heap is undefined, and so is what the parsers read outside of their input.
-/

namespace ExynosHal.Strongbox.KeyRequests
open Library Library.BitString Params Serialization AuthorizationList Operation Ipc ParsedKey WrappedKey
open Pkcs8 hiding start
open BitVec (ofNat)

def kmErrorUnsupportedAlgorithm : KmErrorCode := -4
def kmErrorUnsupportedKeySize : KmErrorCode := -6
def kmErrorInvalidInputLength : KmErrorCode := -21
def kmErrorInsufficientBufferSpace : KmErrorCode := -29
def kmErrorInvalidTag : KmErrorCode := -40
def kmErrorImportParameterMismatch : KmErrorCode := -44
def kmErrorAttestationKeysNotProvisioned : KmErrorCode := -74

def kmAlgorithmRsa : U32 := 1#32
def kmAlgorithmHmac : U32 := 128#32

def kmEcCurveP224 : U32 := 0#32
def kmEcCurveP256 : U32 := 1#32

inductive KeyFormat where
  | x509
  | pkcs8
  | raw
  deriving DecidableEq

def liftKm {α : Type} (result : Except KmError α) : Except KmErrorCode α :=
  match result with
  | .error e => .error (kmErrorCode e)
  | .ok a => .ok a

def runParser {α : Type} (parser : Parser α) (input : List Byte) : Builder α :=
  Procedure.ofOption ((parser (Pkcs8.start input)).map fun end_ => liftKm end_.2)

def valueUnder (tag : Tag) (type : TagType) (htype : keymasterTagGetType tag = some type) (param : KeyParam) :
    Option (Value (some type)) :=
  if h : param.tag = tag then some ((h ▸ htype : keymasterTagGetType param.tag = some type) ▸ param.value) else none

def tagValues (params : List KeyParam) (tag : Tag) (type : TagType) (htype : keymasterTagGetType tag = some type) :
    List (Value (some type)) := params.filterMap (valueUnder tag type htype)

theorem type_tagAlgorithm : keymasterTagGetType tagAlgorithm = some .enum := by decide

theorem type_tagKeySize : keymasterTagGetType tagKeySize = some .uint := by decide

theorem type_tagRsaPublicExponent : keymasterTagGetType tagRsaPublicExponent = some .ulong := by decide

def algorithms (params : List KeyParam) : List U32 := tagValues params tagAlgorithm .enum type_tagAlgorithm

def keySizes (params : List KeyParam) : List U32 := tagValues params tagKeySize .uint type_tagKeySize

def ecCurves (params : List KeyParam) : List U32 := tagValues params tagEcCurve .enum (by decide)

def rsaExponents (params : List KeyParam) : List U64 :=
  tagValues params tagRsaPublicExponent .ulong type_tagRsaPublicExponent

/-- `get_tag_value_enum`, `get_tag_value_int` and `get_tag_value_long` look at the first parameter under a tag. -/
def getTagValue {α : Type} (values : List α) : Except KmErrorCode α :=
  match values with
  | [] => .error kmErrorInvalidTag
  | value :: _ => .ok value

def ecCurveToKeysize (ecCurve : U32) : U32 :=
  if ecCurve = kmEcCurveP224 then 224
  else if ecCurve = kmEcCurveP256 then 256
  else 0

def serializedParams (params : List KeyParam) (keysize : U32) (rsapubexp : U64) :
    Option (Except KmErrorCode (U32 × List Byte)) :=
  match sspSerializerSerializeParams params ⟨false, keysize, rsapubexp⟩ ⟨0, 0⟩ with
  | .error e => some (.error (kmErrorCode e))
  | .ok (size, blob) => if blob.length ≤ size.toNat then some (.ok (size, blob)) else none

def serializeParams (params : List KeyParam) (keysize : U32) (rsapubexp : U64) : Builder (U32 × List Byte) :=
  Procedure.ofOption (serializedParams params keysize rsapubexp)

theorem serializedParams_eq_ok_iff {params : List KeyParam} {keysize size : U32} {rsapubexp : U64} {blob : List Byte} :
    serializedParams params keysize rsapubexp = some (.ok (size, blob)) ↔
      sspSerializerSerializeParams params ⟨false, keysize, rsapubexp⟩ ⟨0, 0⟩ = .ok (size, blob) ∧
      blob.length ≤ size.toNat := by
  rw [serializedParams]
  rcases sspSerializerSerializeParams params ⟨false, keysize, rsapubexp⟩ ⟨0, 0⟩ with e | ⟨size', blob'⟩
  · simp
  · simp only [Option.ite_none_right_eq_some, Option.some.injEq, Except.ok.injEq, Prod.mk.injEq]
    constructor
    · rintro ⟨hfits, rfl, rfl⟩
      exact ⟨⟨rfl, rfl⟩, hfits⟩
    · rintro ⟨⟨rfl, rfl⟩, hfits⟩
      exact ⟨hfits, rfl, rfl⟩

def sspHmacMaxKeySize : Nat := 512

def checkSupportedKeySize (algorithm keysize : U32) : Bool :=
  if algorithm = kmAlgorithmRsa then keysize = 2048
  else if algorithm = kmAlgorithmEc then keysize = 256
  else if algorithm = kmAlgorithmAes then keysize = 128 || keysize = 192 || keysize = 256
  else if algorithm = kmAlgorithmHmac then
    64 ≤ keysize.toNat && keysize.toNat ≤ sspHmacMaxKeySize && keysize.toNat % 8 = 0
  else if algorithm = kmAlgorithmTripleDes then keysize = 168
  else false

def sspKeySizeMax (algorithm : U32) : U32 :=
  if algorithm = kmAlgorithmRsa then 2048
  else if algorithm = kmAlgorithmEc then 256
  else if algorithm = kmAlgorithmAes then 256
  else if algorithm = kmAlgorithmHmac then 512
  else if algorithm = kmAlgorithmTripleDes then 192
  else 0

/-- `SSP_KM_RSA_METADATA_SIZE` and `SSP_KM_EC_METADATA_SIZE` are 36 and 16. -/
def sspKeyDataSizeMax (algorithm keySizeBits : U32) : U32 :=
  let keylen := ((if 0 < keySizeBits then keySizeBits else sspKeySizeMax algorithm) + 7) / 8
  let premetaSize := 4 + 4
  if algorithm = kmAlgorithmAes || algorithm = kmAlgorithmHmac || algorithm = kmAlgorithmTripleDes then premetaSize +
    keylen
  else if algorithm = kmAlgorithmRsa then premetaSize + 36 + 8 * keylen
  else if algorithm = kmAlgorithmEc then premetaSize + 16 + 3 * keylen
  else 0

def sbExtraParamsMaxSize : U32 := 88

def sspKeyBlobSizeMax (algorithm keySizeBits paramsSizeBytes : U32) : U32 :=
  4 + paramsSizeBytes + sbExtraParamsMaxSize + 32 + 64 + sspKeyDataSizeMax algorithm keySizeBits

def charBlobSize (wantsCharacteristics : Bool) (paramsSize : U32) : U32 :=
  if wantsCharacteristics then paramsSize + sbExtraParamsMaxSize else 0

def isValidPublicExponent (exp : U64) : Bool := exp.toNat % 2 = 1 && exp ≠ 1 && exp.toNat ≤ 65537

def generateKeysize (params : List KeyParam) (algorithm : U32) : Except KmErrorCode U32 :=
  match keySizes params with
  | keysize :: _ => .ok keysize
  | [] =>
    match ecCurves params with
    | ecCurve :: _ => if algorithm = kmAlgorithmEc then .ok (ecCurveToKeysize ecCurve) else .error
        kmErrorUnsupportedKeySize
    | [] => .error kmErrorUnsupportedKeySize

def generateExponent (params : List KeyParam) (algorithm : U32) : Except KmErrorCode U64 :=
  if algorithm = kmAlgorithmRsa then
    match rsaExponents params with
    | exp :: _ => if isValidPublicExponent exp then .ok exp else .error kmErrorInvalidArgument
    | [] => .error kmErrorInvalidArgument
  else .ok 0

/-- Returns `key_material_size`. -/
def sspGenerateKey (params : List KeyParam) (wantsCharacteristics : Bool) : Builder U32 := do
  let algorithm ← Procedure.ofExcept (getTagValue (algorithms params))
  let keysizeBits ← Procedure.ofExcept (generateKeysize params algorithm)
  expectTrue kmErrorUnsupportedKeySize (checkSupportedKeySize algorithm keysizeBits)
  let rsaExponent ← Procedure.ofExcept (generateExponent params algorithm)
  let (paramsBlobSize, paramsBlob) ← serializeParams params 0 rsaExponent
  expectTrue kmErrorInvalidArgument (algorithm ≠ kmAlgorithmTripleDes || keysizeBits = 168)
  let encodekeySize := if algorithm = kmAlgorithmTripleDes then 168 + 24 else keysizeBits
  let keyMaterialSize := sspKeyBlobSizeMax algorithm encodekeySize paramsBlobSize
  start .generateKey
  setLen .generateKeyparams paramsBlobSize
  setLen .generateKeyblob keyMaterialSize
  setLen .generateKeychar (charBlobSize wantsCharacteristics paramsBlobSize)
  validate
  copyLen .generateKeyparams paramsBlob
  pure keyMaterialSize

structure ImportArgs where
  params : List KeyParam
  keyFormat : KeyFormat
  keyData : List Byte
  wantsCharacteristics : Bool

def importKeysize (params : List KeyParam) (algorithm : U32) : U32 :=
  match keySizes params with
  | keysize :: _ => keysize
  | [] =>
    if algorithm = kmAlgorithmEc then
      match ecCurves params with
      | ecCurve :: _ => ecCurveToKeysize ecCurve
      | [] => 0
    else 0

def importRsaKey (args : ImportArgs) : Builder (List Byte × U64) := do
  let parsed ← runParser (sspKeyparserParseKeydataPkcs8rsa args.keyData) args.keyData
  let rsaExp ← Procedure.ofOption ((sspKeyparserGetRsaExponentFromParsedkey parsed).map liftKm)
  expectTrue kmErrorImportParameterMismatch ((rsaExponents args.params).head?.all fun tagRsaExp => tagRsaExp = rsaExp)
  pure (parsed, rsaExp)

def importKeydata (args : ImportArgs) (algorithm : U32) : Builder (List Byte × U64) :=
  if args.keyFormat = .pkcs8 then
    if algorithm = kmAlgorithmRsa then importRsaKey args
    else if algorithm = kmAlgorithmEc then do
      let parsed ← runParser (sspKeyparserParseKeydataPkcs8ec args.keyData) args.keyData
      pure (parsed, 0)
    else Procedure.ofExcept (.error kmErrorUnsupportedAlgorithm)
  else pure (sspKeyparserParseKeydataRaw algorithm.toNat args.keyData, 0)

def realKeySize (algorithm parsedKeySize : U32) : U32 :=
  if algorithm = kmAlgorithmTripleDes then 168 else parsedKeySize

structure Import where
  algorithm : U32
  parsedKeydata : List Byte
  keyMaterialSize : U32

def sspImportKey (args : ImportArgs) : Builder Import := do
  let algorithm ← Procedure.ofExcept (getTagValue (algorithms args.params))
  let keysizeBits := importKeysize args.params algorithm
  let (parsed, rsaExp) ← importKeydata args algorithm
  expectTrue kmErrorInvalidInputLength (8 ≤ parsed.length)
  let parsedKeySize ← Procedure.ofOption ((sspKeyparserGetKeysizeFromParsedkey parsed).map .ok)
  expectTrue kmErrorUnsupportedKeySize (algorithm ≠ kmAlgorithmTripleDes || parsedKeySize = 192)
  let real := realKeySize algorithm parsedKeySize
  expectTrue kmErrorImportParameterMismatch (keysizeBits = 0 || keysizeBits = real)
  let keysizeBits := if keysizeBits ≠ 0 then keysizeBits else real
  expectTrue kmErrorUnsupportedKeySize (checkSupportedKeySize algorithm keysizeBits)
  let (paramsBlobSize, paramsBlob) ← serializeParams args.params keysizeBits rsaExp
  expectTrue kmErrorInsufficientBufferSpace (paramsBlobSize.toNat ≤ keyCharacteristicsCommonMaxLen)
  let keyMaterialSize := sspKeyBlobSizeMax algorithm parsedKeySize paramsBlobSize
  start .importKey
  setLen .importKeyparams paramsBlobSize
  setLen .importKeydata (ofNat 32 parsed.length)
  setLen .importKeyblob keyMaterialSize
  setLen .importKeychar (charBlobSize args.wantsCharacteristics paramsBlobSize)
  validate
  copyLen .importKeyparams paramsBlob
  copyLen .importKeydata parsed
  pure ⟨algorithm, parsed, keyMaterialSize⟩

structure ImportWrappedArgs where
  wrappedKeyData : List Byte
  wrappingKeyblob : List Byte
  maskingKey : List Byte
  unwrappingParams : List KeyParam
  wantsCharacteristics : Bool

def blobBytes (input : List Byte) (blob : Blob) : Builder (List Byte) := Procedure.ofOption <|
    if blob.stop ≤ input.length then some (.ok ((input.drop blob.data.toNat).take blob.dataLength.toNat)) else none

/-- Returns `key_material_size`, which is that of an RSA key. -/
def sspImportWrappedkey (args : ImportWrappedArgs) : Builder U32 := do
  let fields ← runParser (sspKeyparserParseWrappedkey args.wrappedKeyData) args.wrappedKeyData
  let authList ← blobBytes args.wrappedKeyData fields.authList
  let list ← Procedure.ofExcept (liftKm (sspKeyparserMakeAuthorizationList 0 0 authList))
  expectTrue kmErrorInvalidArgument (list.out.keyType ≠ 0)
  let (unwrappingSize, unwrappingBlob) ← serializeParams args.unwrappingParams 0 0
  expectTrue kmErrorInsufficientBufferSpace (unwrappingSize.toNat ≤ keyCharacteristicsCommonMaxLen)
  let keyParamsSize := ofNat 32 list.keyParamsLen
  let keyMaterialSize := sspKeyBlobSizeMax kmAlgorithmRsa 2048 keyParamsSize
  start .importWrappedKey
  setLen .wrappedKeyparams keyParamsSize
  setLen .wrappedEncryptedTransportKey (fields.encryptedTransportKey.dataLength.setWidth 32)
  setLen .wrappedKeyDescription (fields.keyDescription.dataLength.setWidth 32)
  setLen .wrappedEncryptedKey (fields.encryptedKey.dataLength.setWidth 32)
  setLen .wrappedIv (ofNat 32 fields.iv.length)
  setLen .wrappedTag (ofNat 32 fields.tag.length)
  setLen .wrappedMaskingKey (ofNat 32 args.maskingKey.length)
  setLen .wrappedWrappingKeyblob (ofNat 32 args.wrappingKeyblob.length)
  setLen .wrappedUnwrappingParamsBlob unwrappingSize
  setLen .wrappedKeyblob keyMaterialSize
  setLen .wrappedKeychar (charBlobSize args.wantsCharacteristics keyParamsSize)
  validate
  copyLen .wrappedKeyparams list.out.keyParams
  copyLen .wrappedEncryptedTransportKey (← blobBytes args.wrappedKeyData fields.encryptedTransportKey)
  copyLen .wrappedKeyDescription (← blobBytes args.wrappedKeyData fields.keyDescription)
  copyLen .wrappedEncryptedKey (← blobBytes args.wrappedKeyData fields.encryptedKey)
  copyLen .wrappedIv fields.iv
  copyLen .wrappedTag fields.tag
  copyLen .wrappedMaskingKey args.maskingKey
  copyLen .wrappedWrappingKeyblob args.wrappingKeyblob
  copyLen .wrappedUnwrappingParamsBlob unwrappingBlob
  pure keyMaterialSize

end ExynosHal.Strongbox.KeyRequests
