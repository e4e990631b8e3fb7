import ExynosHal.Library.LittleEndian
import ExynosHal.Strongbox.Params

/-! # Parameter serialization

The sizing pass, the writing pass and the decoder of
`ssp_strongbox_keymaster_serialization.cpp`. Sizes and counts are `uint32_t`
and wrap; the buffer is the list of the bytes written into it. Allocations are
taken to succeed.
-/

namespace ExynosHal.Strongbox.Serialization
open Library.BitString Library.LittleEndian Params
open BitVec (ofNat)

def appendU32 (val : U32) : List Byte := toLittleEndian 4 val.toNat

def appendU64 (val : U64) : List Byte := toLittleEndian 8 val.toNat

/-- `append_u32_to_buf(data_length)` and the bytes themselves. -/
def appendBlob (data : List Byte) : List Byte := appendU32 (ofNat 32 data.length) ++ data

def calValueLen : (type : Option TagType) → Value type → Except KmError U32
  | some .enum, _ => .ok 4#32
  | some .enumRep, _ => .ok 4#32
  | some .uint, _ => .ok 4#32
  | some .uintRep, _ => .ok 4#32
  | some .bool, _ => .ok 4#32
  | some .ulong, _ => .ok 8#32
  | some .date, _ => .ok 8#32
  | some .ulongRep, _ => .ok 8#32
  | some .bignum, (data : List Byte) => .ok (4#32 + ofNat 32 data.length)
  | some .bytes, (data : List Byte) => .ok (4#32 + ofNat 32 data.length)
  | none, _ => .error .invalidTag

def calLoop : List KeyParam → U32 × U32 → Except KmError (U32 × U32)
  | [], acc => .ok acc
  | param :: params, (calcSize, calcNum) => do
    let len ← calValueLen _ param.value
    calLoop params (calcSize + 4#32 + len, calcNum + 1#32)

/-- Returns `serialized_size` and `serialized_num`. -/
def serializerCalSerializedLen (params : List KeyParam) : Except KmError (U32 × U32) :=
  calLoop params (4#32, 0#32)

def appendValue : (type : Option TagType) → Value type → Except KmError (List Byte)
  | some .enum, (val : U32) => .ok (appendU32 val)
  | some .enumRep, (val : U32) => .ok (appendU32 val)
  | some .uint, (val : U32) => .ok (appendU32 val)
  | some .uintRep, (val : U32) => .ok (appendU32 val)
  | some .bool, (val : Bool) => .ok (appendU32 (if val then 1 else 0))
  | some .ulong, (val : U64) => .ok (appendU64 val)
  | some .ulongRep, (val : U64) => .ok (appendU64 val)
  | some .date, (val : U64) => .ok (appendU64 val)
  | some .bignum, (data : List Byte) => .ok (appendBlob data)
  | some .bytes, (data : List Byte) => .ok (appendBlob data)
  | none, _ => .error .invalidTag

def appendParams : List KeyParam → Except KmError (List Byte)
  | [] => .ok []
  | param :: params => do
    let value ← appendValue _ param.value
    let rest ← appendParams params
    return appendU32 param.tag ++ value ++ rest

structure Timeval where
  tvSec : U64
  tvUsec : U64

def Timeval.millis (tv : Timeval) : U64 := (tv.tvUsec + tv.tvSec * 1000000#64) / 1000#64

structure ExtraParams where
  addTime : Bool
  keysize : U32
  rsapubexp : U64

/-- Returns `*params_blob_size` and the bytes written to the buffer of that size. -/
def sspSerializerSerializeParams (params : List KeyParam) (extra : ExtraParams) (now : Timeval) :
    Except KmError (U32 × List Byte) := do
  let (serializedSize, serializedParamsNum) ← serializerCalSerializedLen params
  let addKeySize : Bool := !hasTag params tagKeySize && extra.keysize ≠ 0
  let serializedSize := serializedSize + if addKeySize then 8#32 else 0#32
  let serializedParamsNum := serializedParamsNum + if addKeySize then 1#32 else 0#32
  let addRsaPubexp : Bool := !hasTag params tagRsaPublicExponent && extra.rsapubexp ≠ 0
  let serializedSize := serializedSize + if addRsaPubexp then 12#32 else 0#32
  let serializedParamsNum := serializedParamsNum + if addRsaPubexp then 1#32 else 0#32
  let serializedSize := serializedSize + if extra.addTime then 12#32 else 0#32
  let serializedParamsNum := serializedParamsNum + if extra.addTime then 1#32 else 0#32
  let body ← appendParams params
  let time := if extra.addTime then appendU32 tagCreationDatetime ++ appendU64 now.millis else []
  let keySize := if addKeySize then appendU32 tagKeySize ++ appendU32 extra.keysize else []
  let rsaPubexp := if addRsaPubexp then appendU32 tagRsaPublicExponent ++ appendU64 extra.rsapubexp else []
  return (serializedSize, appendU32 serializedParamsNum ++ body ++ time ++ keySize ++ rsaPubexp)

def keyparamsCountMax : Nat := 1000

def readU32 (blob : List Byte) : Except KmError (U32 × List Byte) :=
  if 4 ≤ blob.length then .ok (ofNat 32 (ofLittleEndian (blob.take 4)), blob.drop 4)
  else .error .insufficientBufferSpace

def readU64 (blob : List Byte) : Except KmError (U64 × List Byte) :=
  if 8 ≤ blob.length then .ok (ofNat 64 (ofLittleEndian (blob.take 8)), blob.drop 8)
  else .error .insufficientBufferSpace

def readBlob (blob : List Byte) : Except KmError (List Byte × List Byte) := do
  let (dataLength, blob) ← readU32 blob
  if dataLength.toNat ≤ blob.length then .ok (blob.take dataLength.toNat, blob.drop dataLength.toNat)
  else .error .insufficientBufferSpace

def readBool (blob : List Byte) : Except KmError (Bool × List Byte) := do
  let (val, blob) ← readU32 blob
  return (decide (val ≠ 0), blob)

def readValue : (type : Option TagType) → List Byte → Except KmError (Value type × List Byte)
  | some .enum, blob => readU32 blob
  | some .enumRep, blob => readU32 blob
  | some .uint, blob => readU32 blob
  | some .uintRep, blob => readU32 blob
  | some .bool, blob => readBool blob
  | some .ulong, blob => readU64 blob
  | some .ulongRep, blob => readU64 blob
  | some .date, blob => readU64 blob
  | some .bignum, blob => readBlob blob
  | some .bytes, blob => readBlob blob
  | none, _ => .error .invalidTag

def readParam (blob : List Byte) : Except KmError (KeyParam × List Byte) := do
  let (tag, blob) ← readU32 blob
  let (value, blob) ← readValue (keymasterTagGetType tag) blob
  return (⟨tag, value⟩, blob)

def readParams : Nat → List Byte → Except KmError (List KeyParam × List Byte)
  | 0, blob => .ok ([], blob)
  | count + 1, blob => do
    let (param, blob) ← readParam blob
    let (params, blob) ← readParams count blob
    return (param :: params, blob)

def sspSerializerDeserializeParams (blob : List Byte) : Except KmError (List KeyParam × List Byte) := do
  let (val, blob) ← readU32 blob
  if val.toNat > keyparamsCountMax then .error .unknownError
  else readParams val.toNat blob

end ExynosHal.Strongbox.Serialization
