import ExynosHal.Strongbox.ParsedKey
import ExynosHal.Strongbox.Pkcs8Oid
import ExynosHal.Strongbox.WrappedKeyExact

/-! # RSA keys through the PKCS#8 parser

A key in DER goes in, and out come the lengths of its integers and the integers without sign bytes.
-/

namespace ExynosHal.Strongbox.Pkcs8
open Library.BitString Library.ByteCursor Library.LittleEndian Library.Der Params WrappedKey ParsedKey

structure RsaPrivateKey where
  n : Nat
  e : Nat
  d : Nat
  p : Nat
  q : Nat
  dp : Nat
  dq : Nat
  qinv : Nat
  positive : ∀ value ∈ [n, e, d, p, q, dp, dq, qinv], 0 < value

namespace RsaPrivateKey

variable (key : RsaPrivateKey)

def integers : List Nat := [key.n, key.e, key.d, key.p, key.q, key.dp, key.dq, key.qinv]

def privateKey : List Byte := derElement 0x30#8 ([0x02#8, 1, 0] ++ key.integers.flatMap derInteger)

def algorithmIdentifier : List Byte := derElement 0x30#8 (derElement 0x06#8 rsaKeyOid ++ [0x05#8, 0])

def contents : List Byte := [0x02#8, 1, 0] ++ (algorithmIdentifier ++ derElement 0x04#8 key.privateKey)

def encode : List Byte := derElement 0x30#8 key.contents

def keyData : List Byte :=
  [1, 8 * byteWidth key.n, 8 * byteWidth key.n, byteWidth key.n, byteWidth key.e, byteWidth key.d, byteWidth key.p,
    byteWidth key.q, byteWidth key.dp, byteWidth key.dq, byteWidth key.qinv].flatMap (toLittleEndian 4) ++
  (magnitude key.n ++ magnitude key.e ++ magnitude key.d ++ magnitude key.p ++ magnitude key.q ++ magnitude key.dp ++
    magnitude key.dq ++ magnitude key.qinv)

end RsaPrivateKey

theorem derInteger_eq_derElement (value : Nat) :
    derInteger value = derElement 0x02#8 (toBigEndian (integerWidth value) value) := by
  rw [derInteger, derElement, length_toBigEndian]

variable {value : Nat}

theorem stripZero_integer (h : 0 < value) :
    stripZero (toBigEndian (integerWidth value) value) = magnitude value := by
  obtain ⟨byte, bytes, hmagnitude, hbyte⟩ := magnitude_eq_cons h
  rcases toBigEndian_integerWidth h with hsign | hsame
  · rw [hsign, stripZero]
    exact if_pos rfl
  · rw [hsame, hmagnitude, stripZero, if_neg hbyte]

theorem rsaInteger_derInteger (hpos : 0 < value) (hshort : (derInteger value).length < 65536) :
    RsaInteger (magnitude value) (derInteger value) := by
  rw [derInteger_eq_derElement, length_derElement] at hshort
  refine ⟨toBigEndian (integerWidth value) value, ?_, (stripZero_integer hpos).symm⟩
  rw [derInteger_eq_derElement]
  exact element_derElement (by omega)

theorem rsaIntegers_flatMap {values : List Nat} (hpos : ∀ value ∈ values, 0 < value)
    (hshort : (values.flatMap derInteger).length < 65536) :
    RsaIntegers (values.map magnitude) (values.flatMap derInteger) := by
  induction values with
  | nil => rfl
  | cons value values ih =>
    obtain ⟨hval, hvals⟩ := List.forall_mem_cons.mp hpos
    rw [List.flatMap_cons, List.length_append] at hshort
    refine ⟨derInteger value, values.flatMap derInteger, rfl, ?_, ?_⟩
    · exact rsaInteger_derInteger hval (by omega)
    · exact ih hvals (by omega)

section
variable {key : RsaPrivateKey}

section
variable (h : key.contents.length < 65536)
include h

theorem RsaPrivateKey.lengths :
    key.privateKey.length < 65536 ∧ ([0x02#8, 1, 0] ++ key.integers.flatMap derInteger).length < 65536 := by
  rw [contents, List.length_append, List.length_append, length_derElement] at h
  have hpriv : key.privateKey.length < 65536 := by omega
  have hinner := hpriv
  rw [privateKey, length_derElement] at hinner
  exact ⟨hpriv, by omega⟩

theorem RsaPrivateKey.element_encode : Element 0x30#8 key.contents key.encode := element_derElement h

theorem RsaPrivateKey.hasAlgorithm :
    HasAlgorithm rsaKeyOid ([0x05#8, 0] ++ derElement 0x04#8 key.privateKey) key.encode := by
  have hlen : (derElement 0x06#8 rsaKeyOid ++ [0x05#8, 0]).length = 13 := by decide
  refine ⟨13, derLength 13, derElement 0x06#8 rsaKeyOid, ?_, lengthBytes_derLength (by decide), ?_,
    element_derElement (by decide)⟩
  · have helem := element_encode h
    rw [contents, algorithmIdentifier, derElement, hlen] at helem
    simpa using helem
  · rw [← List.append_assoc, List.length_append, hlen]
    exact Nat.le_add_right _ _

theorem RsaPrivateKey.pkcs8Rsa : Pkcs8Rsa rsaKeyOid (key.integers.map magnitude) key.encode := by
  obtain ⟨hpriv, hinner⟩ := lengths h
  refine ⟨⟨derElement 0x04#8 key.privateKey, key.privateKey, key.integers.flatMap derInteger, hasAlgorithm h,
    element_derElement hpriv, element_derElement hinner, rsaIntegers_flatMap key.positive ?_⟩, rfl⟩
  rw [List.length_append] at hinner
  omega

end

theorem RsaPrivateKey.rsaKeyData_eq : rsaKeyData (key.integers.map magnitude) = key.keyData := by
  simp [rsaKeyData, keyData, integers, u32]

theorem RsaPrivateKey.length_encode (h : key.contents.length < 65536) : key.encode.length < 2 ^ 64 := by
  have hlen := length_derLength_le h
  rw [encode, length_derElement]
  omega

theorem RsaPrivateKey.width_lt (h : key.contents.length < 65536) (hmem : value ∈ key.integers) :
    byteWidth value < 65536 := by
  obtain ⟨-, hinner⟩ := lengths h
  have hle : (derInteger value).length ≤ (key.integers.flatMap derInteger).length := by
    rw [List.length_flatMap]
    exact List.le_sum_of_mem (List.mem_map_of_mem hmem)
  rw [List.length_append] at hinner
  rw [derInteger_eq_derElement, length_derElement, length_toBigEndian] at hle
  have hwidth : byteWidth value ≤ integerWidth value := by
    rw [byteWidth, integerWidth]
    omega
  omega

theorem RsaPrivateKey.exponent (h : key.contents.length < 65536) : sspKeyparserGetRsaExponentFromParsedkey key.keyData =
      some (if key.e < 2 ^ 64 then .ok (BitVec.ofNat 64 key.e) else .error .invalidArgument) := by
  have hn : byteWidth key.n < 65536 := width_lt h (by simp [integers])
  have he : byteWidth key.e < 65536 := width_lt h (by simp [integers])
  have hpos : 0 < key.e := key.positive key.e (by simp)
  have hexpo := @sspKeyparserGetRsaExponentFromParsedkey_eq
    ([1, 8 * byteWidth key.n, 8 * byteWidth key.n].flatMap (toLittleEndian 4))
    ([byteWidth key.d, byteWidth key.p, byteWidth key.q, byteWidth key.dp, byteWidth key.dq,
      byteWidth key.qinv].flatMap (toLittleEndian 4)) (magnitude key.n) (magnitude key.e)
    (magnitude key.d ++ magnitude key.p ++ magnitude key.q ++ magnitude key.dp ++ magnitude key.dq ++
      magnitude key.qinv)
    (by simp) (by simp) (by rw [length_magnitude, length_magnitude]; omega)
  have hdata : key.keyData = [1, 8 * byteWidth key.n, 8 * byteWidth key.n].flatMap (toLittleEndian 4) ++
      (u32 (byteWidth key.n) ++
        (u32 (byteWidth key.e) ++ ([byteWidth key.d, byteWidth key.p, byteWidth key.q, byteWidth key.dp,
        byteWidth key.dq, byteWidth key.qinv].flatMap (toLittleEndian 4) ++ (magnitude key.n ++ (magnitude key.e ++
          (magnitude key.d ++ magnitude key.p ++ magnitude key.q ++ magnitude key.dp ++ magnitude key.dq ++
            magnitude key.qinv)))))) := by
    simp [keyData, u32]
  have hwidth : 8 < byteWidth key.e ↔ ¬key.e < 2 ^ 64 := by
    rw [← Nat.not_le, lt_byteWidth_iff (Nat.ne_of_gt hpos)]
    rfl
  rw [length_magnitude, length_magnitude, ofBigEndian_magnitude hpos] at hexpo
  rw [hdata, hexpo]
  simp only [hwidth, ite_not]

theorem eq_nil_of_element_append {tag : Byte} {body body' bytes extra : List Byte} (h : Element tag body bytes)
    (h' : Element tag body' (bytes ++ extra)) : extra = [] :=
  (h.unique h' (List.append_nil _).symm).2.2

theorem pkcs8rsa_fails {input : List Byte} (hsize : input.length < 2 ^ 64) (h : ∀ body, ¬Element 0x30#8 body input) :
    ∃ t e, sspKeyparserParseKeydataPkcs8rsa input (start input) = some (t, .error e) := by
  have hno : ∀ found rest, ¬HasAlgorithm found rest input := by
    rintro found rest ⟨len, length, element, helem, -⟩
    exact h _ helem
  rcases hrun : sspKeyparserParseKeydataPkcs8rsa input (start input) with - | ⟨t, e | data⟩
  · obtain ⟨found, rest, hhas, -⟩ := (pkcs8rsa_eq_none_iff hsize).mp hrun
    exact absurd hhas (hno found rest)
  · exact ⟨t, e, rfl⟩
  · obtain ⟨found, vals, hkey, -⟩ := (pkcs8rsa_ok_iff hsize data).mp ⟨t, hrun⟩
    obtain ⟨rest, hhas⟩ := hkey.hasAlgorithm
    exact absurd hhas (hno found rest)

theorem RsaPrivateKey.fails_append (h : key.contents.length < 65536) {extra : List Byte} (hextra : extra ≠ [])
    (hsize : (key.encode ++ extra).length < 2 ^ 64) :
    ∃ t e, sspKeyparserParseKeydataPkcs8rsa (key.encode ++ extra) (start (key.encode ++ extra)) = some (t, .error e) :=
  pkcs8rsa_fails hsize fun _ helem => hextra (eq_nil_of_element_append (element_encode h) helem)

theorem RsaPrivateKey.fails_take (h : key.contents.length < 65536) {count : Nat} (hcnt : count < key.encode.length) :
    ∃ t e, sspKeyparserParseKeydataPkcs8rsa (key.encode.take count) (start (key.encode.take count)) =
      some (t, .error e) := by
  have hsize := length_encode h
  refine pkcs8rsa_fails (by rw [List.length_take]; omega) fun body helem => ?_
  have hwhole := element_encode h
  rw [← List.take_append_drop count key.encode] at hwhole
  exact absurd (List.drop_eq_nil_iff.mp (eq_nil_of_element_append helem hwhole)) (Nat.not_le.mpr hcnt)

end

/-- A key is parsed to its lengths and magnitudes and keeps its exponent, and no part and no extension of its encoding
is a key. -/
theorem pkcs8rsa_exact (key : RsaPrivateKey) (hlen : key.contents.length < 65536) :
    (∃ t, sspKeyparserParseKeydataPkcs8rsa key.encode (start key.encode) = some (t, .ok key.keyData)) ∧
      sspKeyparserGetRsaExponentFromParsedkey key.keyData =
        some (if key.e < 2 ^ 64 then .ok (BitVec.ofNat 64 key.e) else .error .invalidArgument) ∧
      (∀ count < key.encode.length, ∃ t e,
        sspKeyparserParseKeydataPkcs8rsa (key.encode.take count) (start (key.encode.take count)) = some (t, .error e)) ∧
      ∀ extra ≠ [], (key.encode ++ extra).length < 2 ^ 64 → ∃ t e,
        sspKeyparserParseKeydataPkcs8rsa (key.encode ++ extra) (start (key.encode ++ extra)) = some (t, .error e) := by
  refine ⟨?_, key.exponent hlen, fun count hcnt => key.fails_take hlen hcnt,
    fun extra hextra hsize => key.fails_append hlen hextra hsize⟩
  exact (pkcs8rsa_ok_iff (key.length_encode hlen) _).mpr
    ⟨rsaKeyOid, _, key.pkcs8Rsa hlen, List.prefix_rfl, key.rsaKeyData_eq.symm⟩

def smallKey : RsaPrivateKey where
  n := 3233
  e := 65537
  d := 2753
  p := 61
  q := 53
  dp := 53
  dq := 49
  qinv := 200
  positive := by decide

theorem pkcs8rsa_exact_smallKey : smallKey.contents.length < 65536 ∧
      sspKeyparserGetRsaExponentFromParsedkey smallKey.keyData = some (.ok 65537) := by
  have hlen : smallKey.contents.length < 65536 := by decide
  exact ⟨hlen, (pkcs8rsa_exact smallKey hlen).2.1⟩

end ExynosHal.Strongbox.Pkcs8
