import ExynosHal.Library.Der
import ExynosHal.Strongbox.Pkcs8

/-! # Key data after parsing

What `ssp_keyparser_parse_keydata_raw` writes, and what the readers of parsed key data take from it.
-/

namespace ExynosHal.Strongbox.ParsedKey
open Library.BitString Library.LittleEndian Library.Der Params Pkcs8
open BitVec (ofNat toNat_add toNat_ofNat)

def sspKeyparserParseKeydataRaw (algorithm : Nat) (data : List Byte) : List Byte :=
  u32 algorithm ++ u32 (8 * data.length) ++ data

def btohU32 (keydata : List Byte) (i : Nat) : Option U32 :=
  if i + 4 ≤ keydata.length then some (ofNat 32 (ofLittleEndian ((keydata.drop i).take 4))) else none

def rsaMetaLen : U32 := 44

def sspKeyparserGetKeysizeFromParsedkey (keydata : List Byte) : Option U32 := btohU32 keydata 4

/-- One byte of `e`, at its place in the exponent. -/
def addExponentByte (keydata : List Byte) (nLen eLen : U32) (rsaE : U64) (i : Nat) : Option U64 := do
  let byte ← keydata[(rsaMetaLen + nLen + ofNat 32 i).toNat]?
  pure (rsaE + byte.setWidth 64 <<< (8 * (eLen.toNat - 1 - i)))

def sspKeyparserGetRsaExponentFromParsedkey (keydata : List Byte) : Option (Except KmError U64) := do
  let nLen ← btohU32 keydata 12
  let eLen ← btohU32 keydata 16
  if 8 < eLen.toNat then pure (.error .invalidArgument)
  else if keydata.length < (rsaMetaLen + nLen + eLen).toNat then pure (.error .unknownError)
  else
    let rsaE ← (List.range eLen.toNat).foldlM (addExponentByte keydata nLen eLen) 0
    pure (.ok rsaE)

theorem btohU32_of_split {left right : List Byte} {value : Nat} (hval : value < 2 ^ 32) :
    btohU32 (left ++ (u32 value ++ right)) left.length = some (ofNat 32 value) := by
  have hlen : (u32 value).length = 4 := length_toLittleEndian 4 value
  have hread : ((left ++ (u32 value ++ right)).drop left.length).take 4 = u32 value := by
    rw [List.drop_left, ← hlen, List.take_left]
  rw [btohU32, if_pos (by simp only [List.length_append]; omega), hread, u32,
    ofLittleEndian_toLittleEndian 4 value hval]

theorem foldlM_addExponentByte {left e right : List Byte} {nLen eLen : U32} (hleft : left.length = 44 + nLen.toNat)
    (hsmall : left.length + e.length < 2 ^ 32) (he : eLen.toNat = e.length) (i : Nat) (hi : i ≤ e.length) :
    (List.range i).foldlM (addExponentByte (left ++ (e ++ right)) nLen eLen) 0 =
      some (ofNat 64 (ofBigEndian (e.take i) * 256 ^ (e.length - i))) := by
  induction i with
  | zero =>
    rw [List.take_zero]
    simp [ofBigEndian, ofLittleEndian]
  | succ i ih =>
    have hlt : i < e.length := hi
    have hplace : (rsaMetaLen + nLen + ofNat 32 i).toNat = left.length + i := by
      rw [toNat_add, toNat_add, toNat_ofNat, rsaMetaLen, hleft]
      simp
      omega
    have hbyte : (left ++ (e ++ right))[left.length + i]? = some e[i] := by
      rw [List.getElem?_append_right (Nat.le_add_right _ _), Nat.add_sub_cancel_left, List.getElem?_append_left hlt,
        List.getElem?_eq_getElem hlt]
    have htake : e.take (i + 1) = e.take i ++ [e[i]] := (List.take_concat_get' e i hlt).symm
    have hpow : 256 ^ (e.length - i) = 256 * 256 ^ (e.length - (i + 1)) := by
      rw [← Nat.pow_succ']
      congr 1
      omega
    have hshift : 8 * (eLen.toNat - 1 - i) = 8 * (e.length - (i + 1)) := by omega
    rw [List.range_succ, List.foldlM_append, ih (Nat.le_of_lt hlt)]
    show addExponentByte _ nLen eLen _ i >>= pure = _
    rw [bind_pure, addExponentByte, hplace, hbyte, htake, ofBigEndian_append_singleton, hshift]
    show some _ = _
    congr 1
    apply BitVec.eq_of_toNat_eq
    have hterm : (e[i].setWidth 64 <<< (8 * (e.length - (i + 1)))).toNat =
        e[i].toNat * 256 ^ (e.length - (i + 1)) % 2 ^ 64 := by
      have hbound := e[i].isLt
      have hsame : e[i].toNat % 2 ^ 64 = e[i].toNat := Nat.mod_eq_of_lt (by omega)
      rw [BitVec.toNat_shiftLeft, BitVec.toNat_setWidth, Nat.shiftLeft_eq, Nat.pow_mul, hsame]
    rw [toNat_add, hterm, toNat_ofNat, toNat_ofNat, ← Nat.add_mod, hpow]
    congr 1
    ring

theorem sspKeyparserGetRsaExponentFromParsedkey_eq {head lengths n e right : List Byte} (hhead : head.length = 12)
    (hlengths : lengths.length = 24) (hsmall : 44 + n.length + e.length < 2 ^ 32) :
    sspKeyparserGetRsaExponentFromParsedkey
      (head ++ (u32 n.length ++ (u32 e.length ++ (lengths ++ (n ++ (e ++ right)))))) =
      some (if 8 < e.length then .error .invalidArgument else .ok (ofNat 64 (ofBigEndian e))) := by
  have hn : (u32 n.length).length = 4 := length_toLittleEndian 4 _
  have he : (u32 e.length).length = 4 := length_toLittleEndian 4 _
  have hnLen : (ofNat 32 n.length).toNat = n.length := by
    rw [toNat_ofNat, Nat.mod_eq_of_lt (by omega)]
  have heLen : (ofNat 32 e.length).toNat = e.length := by
    rw [toNat_ofNat, Nat.mod_eq_of_lt (by omega)]
  generalize hdata : head ++ (u32 n.length ++ (u32 e.length ++ (lengths ++ (n ++ (e ++ right))))) = keydata
  have hfst : btohU32 keydata 12 = some (ofNat 32 n.length) := by
    rw [← hdata, ← hhead]
    exact btohU32_of_split (by omega)
  have hsnd : btohU32 keydata 16 = some (ofNat 32 e.length) := by
    have hplace : (head ++ u32 n.length).length = 16 := by rw [List.length_append, hhead, hn]
    rw [← hdata, ← List.append_assoc, ← hplace]
    exact btohU32_of_split (by omega)
  have hmeta : (rsaMetaLen + ofNat 32 n.length + ofNat 32 e.length).toNat = 44 + n.length + e.length := by
    rw [toNat_add, toNat_add, hnLen, heLen, rsaMetaLen]
    simp
    omega
  have hloop : (List.range e.length).foldlM
      (addExponentByte keydata (ofNat 32 n.length) (ofNat 32 e.length)) 0 =
        some (ofNat 64 (ofBigEndian e)) := by
    have hleft : (head ++ u32 n.length ++ u32 e.length ++ lengths ++ n).length = 44 + n.length := by
      simp only [List.length_append, hhead, hn, he, hlengths]
    have hfold :=
      @foldlM_addExponentByte _ _ right _ _ (hleft.trans (by rw [hnLen])) (by rw [hleft]; exact hsmall) heLen
      e.length (Nat.le_refl _)
    rw [List.take_length, Nat.sub_self, Nat.pow_zero, Nat.mul_one] at hfold
    rw [← hdata, ← hfold]
    simp only [List.append_assoc]
  have hfits : ¬keydata.length < 44 + n.length + e.length := by
    rw [← hdata]
    simp only [List.length_append, hhead, hn, he, hlengths]
    omega
  simp only [sspKeyparserGetRsaExponentFromParsedkey, hfst, hsnd, Option.bind_eq_bind, Option.bind_some, heLen, hmeta,
    hfits, if_false, hloop]
  split_ifs <;> rfl

end ExynosHal.Strongbox.ParsedKey
