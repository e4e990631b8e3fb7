import ExynosHal.Strongbox.Serialization

/-! # AuthorizationList of a wrapped key

`ssp_keyparser_make_authorization_list` walks the DER bytes twice: the first pass counts parameters and bytes,
the second one writes the parameters into a buffer of that size. A failed pass keeps what it has written.
-/

namespace ExynosHal.Strongbox.AuthorizationList
open Library.BitString Params Serialization

def derParserGetLength : List Byte → Option (Nat × List Byte)
  | [] => none
  | val :: pos =>
    if val.toNat < 0x80 then
      if val.toNat ≤ pos.length then some (val.toNat, pos) else none
    else if val = 0x81#8 then
      match pos with
      | low :: pos => if low.toNat ≤ pos.length then some (low.toNat, pos) else none
      | [] => none
    else if val = 0x82#8 then
      match pos with
      | high :: low :: pos =>
        if 256 * high.toNat + low.toNat ≤ pos.length then some (256 * high.toNat + low.toNat, pos) else none
      | _ => none
    else none

def derParserGetLengthOfTag (tag : Byte) : List Byte → Option (Nat × List Byte)
  | [] => none
  | val :: pos => if val = tag then derParserGetLength pos else none

def derParserReadOctstringLength : List Byte → Option (Nat × List Byte) := derParserGetLengthOfTag 0x04#8

def derParserReadSeqLength : List Byte → Option (Nat × List Byte) := derParserGetLengthOfTag 0x30#8

def derParserReadTag : List Byte → Option (Nat × List Byte)
  | [] => none
  | val :: pos =>
    if val.toNat < 0xA0 then none
    else if 0xBF ≤ val.toNat then
      if val ≠ 0xBF#8 then none
      else match pos with
        | [] => none
        | val :: pos =>
          if val.toNat < 128 then
            if val.toNat < 31 then none else some (val.toNat, pos)
          else match pos with
            | [] => none
            | low :: pos => some (128 * (val.toNat - 128) + low.toNat, pos)
    else some (val.toNat - 0xA0, pos)

def derParserReadTagWithLength (pos : List Byte) : Option (Nat × Nat × List Byte) := do
  let (tag, pos) ← derParserReadTag pos
  let (retLen, pos) ← derParserGetLength pos
  return (tag, retLen, pos)

variable {bytes pos : List Byte} {len : Nat}

theorem derParserGetLength_bounds (h : derParserGetLength bytes = some (len, pos)) :
    pos.length < bytes.length ∧ bytes.length ≤ pos.length + 3 ∧ len ≤ pos.length ∧ len ≤ 65535 := by
  cases bytes with
  | nil => cases h
  | cons val bytes =>
    rw [derParserGetLength.eq_def] at h
    dsimp only at h
    split_ifs at h with hshort hfits hone htwo
    · cases h
      simp only [List.length_cons]
      omega
    · cases bytes with
      | nil => cases h
      | cons low bytes =>
        obtain ⟨hfits, hpair⟩ := Option.ite_none_right_eq_some.mp h
        cases hpair
        have := low.isLt
        simp only [List.length_cons]
        omega
    · cases bytes with
      | nil => cases h
      | cons high bytes =>
        cases bytes with
        | nil => cases h
        | cons low bytes =>
          obtain ⟨hfits, hpair⟩ := Option.ite_none_right_eq_some.mp h
          cases hpair
          have := high.isLt
          have := low.isLt
          simp only [List.length_cons]
          omega

variable {tag : Nat}

theorem derParserReadTag_lt (h : derParserReadTag bytes = some (tag, pos)) : pos.length < bytes.length := by
  cases bytes with
  | nil => cases h
  | cons val bytes =>
    rw [derParserReadTag.eq_def] at h
    dsimp only at h
    split_ifs at h with _ _ _
    · cases bytes with
      | nil => cases h
      | cons val bytes =>
        dsimp only at h
        split_ifs at h with _ _
        · cases h
          simp only [List.length_cons]
          omega
        · cases bytes with
          | nil => cases h
          | cons low bytes =>
            cases h
            simp only [List.length_cons]
            omega
    · obtain ⟨-, rfl⟩ := Prod.mk.inj (Option.some.inj h)
      exact Nat.lt_succ_self _

theorem derParserReadTagWithLength_lt (h : derParserReadTagWithLength bytes = some (tag, len, pos)) :
    pos.length + 2 ≤ bytes.length ∧ len ≤ pos.length := by
  obtain ⟨⟨_, behindTag⟩, htag, h⟩ := Option.bind_eq_some_iff.mp h
  obtain ⟨⟨_, behindLength⟩, hlen, h⟩ := Option.bind_eq_some_iff.mp h
  cases h
  have := derParserReadTag_lt htag
  obtain ⟨hlt, -, hle, -⟩ := derParserGetLength_bounds hlen
  exact ⟨by omega, hle⟩

def tagPurpose : Tag := TagType.enumRep.code ||| 1#32
def tagAlgorithm : Tag := TagType.enum.code ||| 2#32
def tagBlockMode : Tag := TagType.enumRep.code ||| 4#32
def tagDigest : Tag := TagType.enumRep.code ||| 5#32
def tagPadding : Tag := TagType.enumRep.code ||| 6#32
def tagCallerNonce : Tag := TagType.bool.code ||| 7#32
def tagMinMacLength : Tag := TagType.uint.code ||| 8#32
def tagEcCurve : Tag := TagType.enum.code ||| 10#32
def tagRollbackResistance : Tag := TagType.bool.code ||| 303#32
def tagActiveDatetime : Tag := TagType.date.code ||| 400#32
def tagOriginationExpireDatetime : Tag := TagType.date.code ||| 401#32
def tagUsageExpireDatetime : Tag := TagType.date.code ||| 402#32
def tagUserSecureId : Tag := TagType.ulongRep.code ||| 502#32
def tagNoAuthRequired : Tag := TagType.bool.code ||| 503#32
def tagUserAuthType : Tag := TagType.enum.code ||| 504#32
def tagAuthTimeout : Tag := TagType.uint.code ||| 505#32
def tagAllowWhileOnBody : Tag := TagType.bool.code ||| 506#32
def tagTrustedUserPresenceRequired : Tag := TagType.bool.code ||| 507#32
def tagTrustedConfirmationRequired : Tag := TagType.bool.code ||| 508#32
def tagUnlockedDeviceRequired : Tag := TagType.bool.code ||| 509#32
def tagOrigin : Tag := TagType.enum.code ||| 702#32
def tagRootOfTrust : Tag := TagType.bytes.code ||| 704#32
def tagOsVersion : Tag := TagType.uint.code ||| 705#32
def tagOsPatchlevel : Tag := TagType.uint.code ||| 706#32
def tagAttestationApplicationId : Tag := TagType.bytes.code ||| 709#32
def tagAttestationIdBrand : Tag := TagType.bytes.code ||| 710#32
def tagAttestationIdDevice : Tag := TagType.bytes.code ||| 711#32
def tagAttestationIdProduct : Tag := TagType.bytes.code ||| 712#32
def tagAttestationIdSerial : Tag := TagType.bytes.code ||| 713#32
def tagAttestationIdImei : Tag := TagType.bytes.code ||| 714#32
def tagAttestationIdMeid : Tag := TagType.bytes.code ||| 715#32
def tagAttestationIdManufacturer : Tag := TagType.bytes.code ||| 716#32
def tagAttestationIdModel : Tag := TagType.bytes.code ||| 717#32
def tagVendorPatchlevel : Tag := TagType.uint.code ||| 718#32
def tagBootPatchlevel : Tag := TagType.uint.code ||| 719#32

def km4AttestAuthlist : List Tag :=
  [tagPurpose, tagAlgorithm, tagKeySize, tagBlockMode, tagDigest, tagPadding, tagCallerNonce, tagMinMacLength,
    tagEcCurve, tagRsaPublicExponent, tagRollbackResistance, tagActiveDatetime, tagOriginationExpireDatetime,
    tagUsageExpireDatetime, tagUserSecureId, tagNoAuthRequired, tagUserAuthType, tagAuthTimeout, tagAllowWhileOnBody,
    tagTrustedUserPresenceRequired, tagTrustedConfirmationRequired, tagUnlockedDeviceRequired, tagCreationDatetime,
    tagOrigin, tagRootOfTrust, tagOsVersion, tagOsPatchlevel, tagAttestationApplicationId, tagAttestationIdBrand,
    tagAttestationIdDevice, tagAttestationIdProduct, tagAttestationIdSerial, tagAttestationIdImei,
    tagAttestationIdMeid, tagAttestationIdManufacturer, tagAttestationIdModel, tagVendorPatchlevel,
    tagBootPatchlevel]

def getTagId (tag : Tag) : Nat := (tag &&& 0x0FFFFFFF#32).toNat

inductive Asn1Type where
  | setOfInteger
  | integerU32
  | integerU64
  | null
  | octetString
  | rootOfTrust
  deriving DecidableEq

/-- The case labels that the `switch` statements of both passes share. -/
def asn1Type (authTag : Tag) : Option Asn1Type :=
  if authTag ∈ [tagPurpose, tagBlockMode, tagDigest, tagPadding] then some .setOfInteger
  else if authTag ∈ [tagAlgorithm, tagEcCurve, tagUserAuthType, tagOrigin] then some .integerU32
  else if authTag ∈ [tagKeySize, tagAuthTimeout, tagOsVersion, tagOsPatchlevel, tagVendorPatchlevel,
    tagBootPatchlevel, tagMinMacLength] then some .integerU32
  else if authTag ∈ [tagRsaPublicExponent, tagUserSecureId] then some .integerU64
  else if authTag ∈ [tagActiveDatetime, tagOriginationExpireDatetime, tagUsageExpireDatetime,
    tagCreationDatetime] then some .integerU64
  else if authTag ∈ [tagRollbackResistance, tagNoAuthRequired, tagAllowWhileOnBody, tagTrustedUserPresenceRequired,
    tagTrustedConfirmationRequired, tagUnlockedDeviceRequired, tagCallerNonce] then some .null
  else if authTag ∈ [tagAttestationApplicationId, tagAttestationIdBrand, tagAttestationIdDevice,
    tagAttestationIdProduct, tagAttestationIdSerial, tagAttestationIdImei, tagAttestationIdMeid,
    tagAttestationIdManufacturer, tagAttestationIdModel] then some .octetString
  else if authTag = tagRootOfTrust then some .rootOfTrust
  else none

/-- What a pass does at one element, given the element's content. -/
abbrev Visit (σ : Type) := Tag → List Byte → σ → σ × Except KmError Unit

def invalidArgument {σ : Type} (s : σ) : σ × Except KmError Unit := (s, .error .invalidArgument)

/-- The loop of both passes. The index into the table only grows, so `table` is the part of it
from the index on; it stays on the entry it has found. -/
def walkAuthlist {σ : Type} (visit : Visit σ) (table : List Tag) (data : List Byte) (s : σ) : σ × Except KmError Unit :=
  if data = [] then (s, .ok ())
  else match _hread : derParserReadTagWithLength data with
    | none => invalidArgument s
    | some (tag, tagLen, pos) =>
      match table.dropWhile fun entry => getTagId entry ≠ tag with
      | [] => invalidArgument s
      | authTag :: table =>
        match visit authTag (pos.take tagLen) s with
        | (s, .error e) => (s, .error e)
        | (s, .ok _) => walkAuthlist visit (authTag :: table) (pos.drop tagLen) s
termination_by data.length
decreasing_by
  have := derParserReadTagWithLength_lt _hread
  rw [List.length_drop]
  omega

def shortContent (type : Byte) : List Byte → Option (List Byte)
  | first :: second :: content => if first = type ∧ second.toNat = content.length then some content else none
  | _ => none

structure ListSize where
  paramsNum : U32
  requiredLen : Nat
  deriving DecidableEq

def ListSize.add (size : ListSize) (num len : Nat) : ListSize :=
  ⟨size.paramsNum + BitVec.ofNat 32 num, size.requiredLen + len⟩

def authorizationListParseAsn1SetOfInteger (data : List Byte) (size : ListSize) : ListSize × Except KmError Unit :=
  match shortContent 0x31#8 data with
  | none => invalidArgument size
  | some _ =>
    if data.length % 3 = 2 then
      let localParamNum := (data.length - 2) / 3
      (size.add localParamNum ((4 + 4) * localParamNum), .ok ())
    else invalidArgument size

def parseAsn1Integer (valueLen : Nat) (data : List Byte) (size : ListSize) : ListSize × Except KmError Unit :=
  match shortContent 0x02#8 data with
  | none => invalidArgument size
  | some _ => (size.add 1 (4 + valueLen), .ok ())

def authorizationListParseAsn1IntegerU32 : List Byte → ListSize → ListSize × Except KmError Unit := parseAsn1Integer 4

def authorizationListParseAsn1IntegerU64 : List Byte → ListSize → ListSize × Except KmError Unit := parseAsn1Integer 8

def authorizationListParseAsn1Null (data : List Byte) (size : ListSize) : ListSize × Except KmError Unit :=
  if data = [0x05#8, 0#8] then (size.add 1 (4 + 4), .ok ()) else invalidArgument size

def authorizationListParseAsn1OctetString (data : List Byte) (size : ListSize) : ListSize × Except KmError Unit :=
  match derParserReadOctstringLength data with
  | none => invalidArgument size
  | some (retLen, pos) =>
    -- `remain_len` has been advanced over the header, `len` has not
    if retLen = data.length ∧ pos.length = 0 then (size.add 1 (4 + 4 + retLen), .ok ()) else invalidArgument size

def authorizationListParseAsn1OctetStringRot (_data : List Byte) (size : ListSize) : ListSize × Except KmError Unit :=
  (size, .ok ())

def authorizationListParseAsn1 : Visit ListSize := fun authTag data size =>
  match asn1Type authTag with
  | some .setOfInteger => authorizationListParseAsn1SetOfInteger data size
  | some .integerU32 => authorizationListParseAsn1IntegerU32 data size
  | some .integerU64 => authorizationListParseAsn1IntegerU64 data size
  | some .null => authorizationListParseAsn1Null data size
  | some .octetString => authorizationListParseAsn1OctetString data size
  | some .rootOfTrust => authorizationListParseAsn1OctetStringRot data size
  | none => invalidArgument size

def authorizationListParseAuthlist (data : List Byte) : ListSize × Except KmError Unit :=
  walkAuthlist authorizationListParseAsn1 km4AttestAuthlist data ⟨0#32, 4⟩

/-- The bytes written behind `key_params` so far and the two out-parameters. -/
structure KeyParamsOut where
  keyParams : List Byte
  keyType : U32
  hwAuthType : U32
  deriving DecidableEq

def KeyParamsOut.append (out : KeyParamsOut) (bytes : List Byte) : KeyParamsOut :=
  { out with keyParams := out.keyParams ++ bytes }

/-- Big-endian, as `get_sized_u32` and `get_sized_u64` read it. -/
def getSized (width : Nat) (bytes : List Byte) : BitVec width :=
  bytes.foldl (fun val byte => (val <<< 8) + byte.setWidth width) 0

def getSizedU32 : List Byte → U32 := getSized 32

def getSizedU64 : List Byte → U64 := getSized 64

def serializeSetLoop (authTag : Tag) : List Byte → KeyParamsOut → KeyParamsOut × Except KmError Unit
  | type :: len :: val :: rest, out =>
    if type = 0x02#8 then
      if len = 1#8 then serializeSetLoop authTag rest (out.append (appendU32 authTag ++ appendU32 (val.setWidth 32)))
      else invalidArgument out
    else invalidArgument out
  | _, out => (out, .ok ())

def authorizationListSerializeTagSetOfInteger (authTag : Tag) (data : List Byte) (out : KeyParamsOut) :
    KeyParamsOut × Except KmError Unit :=
  match shortContent 0x31#8 data with
  | none => invalidArgument out
  | some content =>
    if content.length % 3 = 0 then serializeSetLoop authTag content out else invalidArgument out

def serializeTagInteger (maxLen : Nat) (appendValue : List Byte → List Byte) (authTag : Tag) (data : List Byte)
    (out : KeyParamsOut) : KeyParamsOut × Except KmError Unit :=
  match shortContent 0x02#8 data with
  | none => invalidArgument out
  | some content =>
    if content.length ≤ maxLen then (out.append (appendU32 authTag ++ appendValue content), .ok ())
    else invalidArgument out

def authorizationListSerializeTagIntegerU32 : Tag → List Byte → KeyParamsOut → KeyParamsOut × Except KmError Unit :=
  serializeTagInteger 4 fun content => appendU32 (getSizedU32 content)

def authorizationListSerializeTagIntegerU64 : Tag → List Byte → KeyParamsOut → KeyParamsOut × Except KmError Unit :=
  serializeTagInteger 8 fun content => appendU64 (getSizedU64 content)

def authorizationListSerializeTagNull (authTag : Tag) (data : List Byte) (out : KeyParamsOut) :
    KeyParamsOut × Except KmError Unit :=
  if data = [0x05#8, 0#8] then (out.append (appendU32 authTag ++ appendU32 1#32), .ok ()) else invalidArgument out

def authorizationListSerializeTagOctetString (authTag : Tag) (data : List Byte) (out : KeyParamsOut) :
    KeyParamsOut × Except KmError Unit :=
  match shortContent 0x04#8 data with
  | none => invalidArgument out
  | some content => (out.append (appendU32 authTag ++ appendBlob content), .ok ())

def recordTag (authTag : Tag) (data : List Byte) (out : KeyParamsOut) : KeyParamsOut :=
  if authTag = tagAlgorithm then { out with keyType := getSizedU32 (data.drop 2) }
  else if authTag = tagUserAuthType then { out with hwAuthType := getSizedU32 (data.drop 2) }
  else out

def authorizationListSerializeTag : Visit KeyParamsOut := fun authTag data out =>
  match asn1Type authTag with
  | some .setOfInteger => authorizationListSerializeTagSetOfInteger authTag data out
  | some .integerU32 =>
    match authorizationListSerializeTagIntegerU32 authTag data out with
    | (out, .error e) => (out, .error e)
    | (out, .ok _) => (recordTag authTag data out, .ok ())
  | some .integerU64 => authorizationListSerializeTagIntegerU64 authTag data out
  | some .null => authorizationListSerializeTagNull authTag data out
  | some .octetString => authorizationListSerializeTagOctetString authTag data out
  | some .rootOfTrust => (out, .ok ())
  | none => invalidArgument out

def authorizationListSerializeAuthlist (data : List Byte) (out : KeyParamsOut) : KeyParamsOut × Except KmError Unit :=
  walkAuthlist authorizationListSerializeTag km4AttestAuthlist data out

structure AuthorizationListOut where
  keyParamsLen : Nat
  out : KeyParamsOut
  deriving DecidableEq

/-- `keyParams` holds what was written to the buffer of `keyParamsLen` bytes, from its start on. -/
def sspKeyparserMakeAuthorizationList (keyType hwAuthType : U32) (data : List Byte) :
    Except KmError AuthorizationListOut :=
  match derParserReadSeqLength data with
  | none => .error .invalidArgument
  | some (seqLen, pos) =>
    if seqLen = pos.length then
      match authorizationListParseAuthlist pos with
      | (_, .error e) => .error e
      | (size, .ok _) =>
        match authorizationListSerializeAuthlist pos ⟨appendU32 size.paramsNum, keyType, hwAuthType⟩ with
        | (_, .error e) => .error e
        | (out, .ok _) => .ok ⟨size.requiredLen, out⟩
    else .error .invalidArgument

end ExynosHal.Strongbox.AuthorizationList
