import ExynosHal.Library.LittleEndian
import ExynosHal.Strongbox.WrappedKey

/-! # Private keys in PKCS#8

`ssp_keyparser_parse_keydata_pkcs8rsa` and `ssp_keyparser_parse_keydata_pkcs8ec`. The memory
for the parsed key is taken to be there. `memcmp` outside of an object is undefined, whatever
the bytes before the end are. The language of a reader says which bytes it succeeds on.
-/

namespace ExynosHal.Strongbox.Pkcs8
open Library.BitString Library.ByteCursor Library.ByteCursor.Reader Library.LittleEndian Params WrappedKey

def eccKeyOid : List Byte := [0x2a#8, 0x86#8, 0x48#8, 0xce#8, 0x3d#8, 0x02#8, 0x01#8]

def rsaKeyOid : List Byte := [0x2a#8, 0x86#8, 0x48#8, 0x86#8, 0xf7#8, 0x0d#8, 0x01#8, 0x01#8, 0x01#8]

def eccP256Oid : List Byte := [0x2a#8, 0x86#8, 0x48#8, 0xce#8, 0x3d#8, 0x03#8, 0x01#8, 0x07#8]

def derParserReadIntegerLength (input : List Byte) : Parser U64 := do
  let retLen ← derParserGetLengthOfTag input 0x02#8
  if 1 ≤ retLen then
    let val ← peek input 0
    if val = 0 then
      advance 1
      pure (retLen - 1)
    else pure retLen
  else pure retLen

def derParserReadOidLength (input : List Byte) : Parser U64 := derParserGetLengthOfTag input 0x06#8

/-- The header of an element that ends with the input: its length is checked against `data_len`. -/
def parseWhole (input : List Byte) (tag : Byte) : Parser Unit := do
  let len ← derParserGetLengthOfTag input tag
  let c ← cursor
  require (len == c.remain)

/-- `data_len >= n && data[0] == bytes[0] && ..`, and past these bytes. -/
def parseLiteral (input bytes : List Byte) : Parser Unit := do
  requireRemain (BitVec.ofNat 64 bytes.length)
  requireBytes input 0 bytes
  advance (BitVec.ofNat 64 bytes.length)

def takeBytes (input : List Byte) (len : U64) : Parser (List Byte) := do
  let bytes ← copy input 0 len
  advance len
  pure bytes

/-- `memcmp(data, object, len) == 0`, and past the bytes. -/
def parseObject (input object : List Byte) (len : U64) : Parser Unit := do
  let same ← memcmp input object len
  require same
  advance len

def parseAlgorithmOidLength (input : List Byte) : Parser U64 := do
  parseWhole input 0x30#8
  parseLiteral input [0x02#8, 1, 0]
  let _seqLen ← derParserReadSeqLength input
  derParserReadOidLength input

def parseAlgorithm (input oid : List Byte) : Parser Unit := do
  let algorithmOidLen ← parseAlgorithmOidLength input
  parseObject input oid algorithmOidLen

def u32 (value : Nat) : List Byte := toLittleEndian 4 value

def parseRsaVal (input : List Byte) : Parser (List Byte) := do
  let len ← derParserReadIntegerLength input
  takeBytes input len

def parseRsaVals (input : List Byte) : Nat → Parser (List (List Byte))
  | 0 => pure []
  | count + 1 => do
    let val ← parseRsaVal input
    let vals ← parseRsaVals input count
    pure (val :: vals)

/-- `KM_ALGORITHM_RSA`, the bits of `n` twice, the lengths and the values. -/
def rsaKeyData (vals : List (List Byte)) : List Byte :=
  let nLen := (vals.headD []).length
  u32 1 ++ u32 (8 * nLen) ++ u32 (8 * nLen) ++ vals.flatMap (fun val => u32 val.length) ++ vals.flatten

/-- The integers of the key are `n`, `e`, `d`, `p`, `q`, `dp`, `dq` and `qinv`. -/
def sspKeyparserParseKeydataPkcs8rsa (input : List Byte) : Parser (List Byte) := do
  parseAlgorithm input rsaKeyOid
  parseLiteral input [0x05#8, 0]
  parseWhole input 0x04#8
  parseWhole input 0x30#8
  parseLiteral input [0x02#8, 1, 0]
  let vals ← parseRsaVals input 8
  let c ← cursor
  require (c.remain == 0)
  pure (rsaKeyData vals)

def parseNamedCurve (input : List Byte) : Parser U64 := do
  let namedCurveOidLen ← derParserReadOidLength input
  let c ← cursor
  require (namedCurveOidLen == 8)
  parseObject input eccP256Oid namedCurveOidLen
  pure c.pos

def parsePrivateKey (input : List Byte) : Parser (List Byte) := do
  let octstrLen ← derParserReadOctstringLength input
  require (octstrLen == 32)
  takeBytes input 32

def parseParameters (input : List Byte) (namedCurveOid : U64) : Parser Unit := do
  let c ← cursor
  if c.remain = 0 then pure ()
  else
    let first ← peek input 0
    if first = 0xa0#8 then
      advance 1
      let _substrLen ← derParserGetLength input
      let curveOidLen ← derParserReadOidLength input
      require (curveOidLen == curveOidLen)
      parseObject input (input.drop namedCurveOid.toNat) curveOidLen
    else pure ()

def parsePublicKey (input : List Byte) : Parser (List Byte × List Byte) := do
  parseWhole input 0xa1#8
  parseWhole input 0x03#8
  parseLiteral input [0x00#8, 0x04]
  let c ← cursor
  require (c.remain == 64)
  let x ← copy input 0 32
  let y ← copy input 32 32
  pure (x, y)

/-- `KM_ALGORITHM_EC`, the bits of the curve, `ecc_curve_nist_p_256`, the lengths and the values. -/
def ecKeyData (x y d : List Byte) : List Byte := u32 3 ++ u32 256 ++ u32 0 ++ u32 32 ++ u32 32 ++ u32 32 ++ x ++ y ++ d

def sspKeyparserParseKeydataPkcs8ec (input : List Byte) : Parser (List Byte) := do
  parseAlgorithm input eccKeyOid
  let namedCurveOid ← parseNamedCurve input
  parseWhole input 0x04#8
  parseWhole input 0x30#8
  parseLiteral input [0x02#8, 1, 1]
  let d ← parsePrivateKey input
  parseParameters input namedCurveOid
  let (x, y) ← parsePublicKey input
  pure (ecKeyData x y d)

def start (data : List Byte) : Track := ⟨⟨0, BitVec.ofNat 64 data.length⟩, []⟩

end ExynosHal.Strongbox.Pkcs8
