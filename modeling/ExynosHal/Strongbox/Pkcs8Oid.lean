import ExynosHal.Strongbox.Pkcs8Language

/-! # The OIDs of an imported key

The parsers compare as many bytes of an OID as the input says it has.
-/

namespace ExynosHal.Strongbox.Pkcs8
open Library.BitString Library.ByteCursor Library.ByteCursor.Reader Params WrappedKey
open BitVec (ofNat)

variable {input : List Byte}

theorem PublicKey.head {point bytes : List Byte} (h : PublicKey point bytes) (tail : List Byte) :
    bytes ≠ 0xa0#8 :: tail := by
  obtain ⟨bits, ⟨length, -, rfl⟩, -⟩ := h
  intro heq
  exact absurd (List.cons.inj heq).1 (by decide)

theorem pkcs8ec_ok_iff (hsize : input.length < 2 ^ 64) :
    (∃ t data, sspKeyparserParseKeydataPkcs8ec input (start input) = some (t, .ok data)) ↔
      ∃ found params tail, Pkcs8Ec found params tail input ∧ found <+: eccKeyOid ∧ ∀ oid ∈ params, oid <+: tail := by
  constructor
  · rintro ⟨t, data, hrun⟩
    obtain ⟨_, t₁, halg, hrun⟩ := bind_eq_ok_iff.mp hrun
    obtain ⟨found, ahead, before, hfront, hhas, hat₁⟩ := parseAlgorithm_sound hsize halg
    obtain ⟨pos, t₂, hnamed, hrun⟩ := bind_eq_ok_iff.mp hrun
    obtain ⟨curve, octets, rfl, hcurve, htail, -, hat₂⟩ := parseNamedCurve_sound hat₁ hnamed
    obtain ⟨_, t₃, hoctets, hrun⟩ := bind_eq_ok_iff.mp hrun
    obtain ⟨_, key, hkey, hat₃⟩ := parseWhole_sound hat₂ hoctets
    obtain ⟨_, t₄, hseq, hrun⟩ := bind_eq_ok_iff.mp hrun
    obtain ⟨_, contents, hcontents, hat₄⟩ := parseWhole_sound hat₃ hseq
    obtain ⟨_, t₅, hver, hrun⟩ := bind_eq_ok_iff.mp hrun
    obtain ⟨ahead, rfl, hat₅⟩ := parseLiteral_sound (by decide) hat₄ hver
    obtain ⟨d, t₆, hpriv, hrun⟩ := bind_eq_ok_iff.mp hrun
    obtain ⟨privateKey, ahead, rfl, ⟨helem, hd⟩, hat₆⟩ := recognizes_parsePrivateKey.sound hat₅ hpriv
    obtain ⟨_, t₇, hparameters, hrun⟩ := bind_eq_ok_iff.mp hrun
    obtain ⟨params, parameters, publicKey, rfl, hparams, hoids, hat₇⟩ := parseParameters_sound hat₆ hparameters
    obtain ⟨point, t₈, hpublic, -⟩ := bind_eq_ok_iff.mp hrun
    obtain ⟨hpoint, -⟩ := parsePublicKey_sound hat₇ hpublic
    exact ⟨found, params, _, ⟨curve, octets, key, privateKey, d, parameters, publicKey, _, hhas, hcurve, rfl, hkey,
      hcontents, helem, hd, hparams, hpoint⟩, hfront, by rwa [htail] at hoids⟩
  · rintro ⟨found, params, _, ⟨curve, octets, key, privateKey, d, parameters, publicKey, point, hhas, hcurve, rfl, hkey,
      hcontents, helem, hd, hparams, hpoint⟩, hfront, hoids⟩
    obtain ⟨t₁, before, halg, hat₁⟩ := parseAlgorithm_complete hsize hhas hfront
    obtain ⟨t₂, pos, hnamed, htail, hat₂⟩ := parseNamedCurve_complete hat₁ hcurve
    obtain ⟨_, t₃, hoctets, hat₃⟩ := parseWhole_complete hat₂ hkey
    obtain ⟨_, t₄, hseq, hat₄⟩ := parseWhole_complete hat₃ hcontents
    obtain ⟨t₅, hver, hat₅⟩ := (recognizes_parseLiteral (by decide)).1.complete (a := ()) hat₄ rfl
    obtain ⟨t₆, hpriv, hat₆⟩ := recognizes_parsePrivateKey.complete hat₅ ⟨helem, hd⟩
    obtain ⟨t₇, hparameters, hat₇⟩ := parseParameters_complete pos hat₆ hparams (by rwa [htail]) hpoint.head
    obtain ⟨t₈, hpublic⟩ := parsePublicKey_complete hat₇ hpoint
    exact ⟨t₈, _, bind_eq_ok_iff.mpr ⟨(), t₁, halg, bind_eq_ok_iff.mpr ⟨pos, t₂, hnamed,
      bind_eq_ok_iff.mpr ⟨(), t₃, hoctets, bind_eq_ok_iff.mpr ⟨(), t₄, hseq, bind_eq_ok_iff.mpr ⟨(), t₅, hver,
        bind_eq_ok_iff.mpr ⟨d, t₆, hpriv, bind_eq_ok_iff.mpr ⟨(), t₇, hparameters,
          bind_eq_ok_iff.mpr ⟨_, t₈, hpublic, rfl⟩⟩⟩⟩⟩⟩⟩⟩⟩

theorem total_rsaRest : Total input (do
    parseLiteral input [0x05#8, 0]
    parseWhole input 0x04#8
    parseWhole input 0x30#8
    parseLiteral input [0x02#8, 1, 0]
    let vals ← parseRsaVals input 8
    let c ← cursor
    require (c.remain == 0)
    pure (rsaKeyData vals) : Parser (List Byte)) := by
  refine Total.bind (recognizes_parseLiteral (by decide)) fun _ => ?_
  iterate 2 refine Total.bind (recognizes_parseWhole _) fun _ => ?_
  refine Total.bind (recognizes_parseLiteral (by decide)) fun _ => ?_
  refine Total.bind (recognizes_parseRsaVals 8) fun vals => ?_
  intro before ahead t hat hnone
  rcases bind_eq_none_iff.mp hnone with hnone | ⟨c, mid, -, hnone⟩
  · cases hnone
  · rcases bind_eq_none_iff.mp hnone with hnone | ⟨u, mid', -, hnone⟩ <;> cases hnone

theorem pkcs8rsa_eq_none_iff (hsize : input.length < 2 ^ 64) :
    sspKeyparserParseKeydataPkcs8rsa input (start input) = none ↔
      ∃ found rest, HasAlgorithm found rest input ∧ rsaKeyOid.length < found.length := by
  rw [← parseAlgorithm_eq_none_iff hsize, sspKeyparserParseKeydataPkcs8rsa, bind_eq_none_iff]
  refine or_iff_left ?_
  rintro ⟨u, mid, halg, hnone⟩
  obtain ⟨_, _, before, -, -, hat⟩ := parseAlgorithm_sound hsize halg
  exact total_rsaRest hat hnone

theorem total_parseNamedCurve : Total input (parseNamedCurve input) := by
  intro before ahead t hat hnone
  rcases bind_eq_none_iff.mp hnone with hnone | ⟨len, t₁, hlen, hnone⟩
  · exact (recognizes_derParserGetLengthOfTag _).2 hat hnone
  obtain ⟨_, rest, -, ⟨bytes, rfl, -, hle⟩, hat₁⟩ := (recognizes_derParserGetLengthOfTag 0x06#8).1.sound hat hlen
  rcases bind_eq_none_iff.mp hnone with hnone | ⟨c, t₂, hcursor, hnone⟩
  · cases hnone
  cases hcursor
  rcases bind_eq_none_iff.mp hnone with hnone | ⟨_, t₃, hrequire, hobject⟩
  · cases hnone
  obtain ⟨rfl, hsame⟩ := expect_eq_ok_iff.mp hrequire
  obtain rfl : len = 8 := eq_of_beq hsame
  rcases bind_eq_none_iff.mp hobject with hnone | ⟨_, _, -, hnone⟩
  · exact absurd ((parseObject_eq_none_iff hat₁ hle).mp hnone) (by decide)
  · cases hnone

theorem total_parsePrivateKey : Total input (parsePrivateKey input) := by
  intro before ahead t hat hnone
  rcases bind_eq_none_iff.mp hnone with hnone | ⟨len, t₁, hlen, hnone⟩
  · exact (recognizes_derParserGetLengthOfTag _).2 hat hnone
  obtain ⟨_, rest, -, ⟨bytes, rfl, -, hle⟩, hat₁⟩ := (recognizes_derParserGetLengthOfTag 0x04#8).1.sound hat hlen
  rcases bind_eq_none_iff.mp hnone with hnone | ⟨_, t₂, hrequire, htake⟩
  · cases hnone
  obtain ⟨rfl, hsame⟩ := expect_eq_ok_iff.mp hrequire
  obtain rfl : len = 32 := eq_of_beq hsame
  exact takeBytes_ne_none hat₁ hle htake

theorem parseParameters_ne_none {before ahead : List Byte} {t : Track} {pos : U64} (hat : At input before ahead t)
    (hpos : pos.toNat ≤ before.length) : parseParameters input pos t ≠ none := by
  intro hnone
  by_cases hhead : ∃ rest, ahead = 0xa0#8 :: rest
  · obtain ⟨ahead, rfl⟩ := hhead
    obtain ⟨mid, hat₁, hsame⟩ := parseParameters_some pos hat
    rw [hsame] at hnone
    rcases bind_eq_none_iff.mp hnone with hnone | ⟨len, t₁, hlen, hnone⟩
    · exact recognizes_derParserGetLength.2 hat₁ hnone
    obtain ⟨length, ahead, rfl, -, hat₂⟩ := recognizes_derParserGetLength.1.sound hat₁ hlen
    rcases bind_eq_none_iff.mp hnone with hnone | ⟨oidLen, t₂, hoidLen, hnone⟩
    · exact (recognizes_derParserGetLengthOfTag _).2 hat₂ hnone
    obtain ⟨_, rest, rfl, ⟨bytes, rfl, -, hle⟩, hat₃⟩ :=
      (recognizes_derParserGetLengthOfTag 0x06#8).1.sound hat₂ hoidLen
    rcases bind_eq_none_iff.mp hnone with hnone | ⟨_, t₃, hrequire, hobject⟩
    · cases hnone
    obtain ⟨rfl, -⟩ := expect_eq_ok_iff.mp hrequire
    have hlong := (parseObject_eq_none_iff hat₃ hle).mp hobject
    have hlength := hat₃.length_eq
    rw [List.length_drop] at hlong
    simp only [List.length_append] at hlength
    omega
  · rw [parseParameters_none pos hat fun rest heq => hhead ⟨rest, heq⟩] at hnone
    cases hnone

theorem total_parsePublicKey : Total input (parsePublicKey input) := by
  iterate 2 refine Total.bind (recognizes_parseWhole _) fun _ => ?_
  refine Total.bind (recognizes_parseLiteral (by decide)) fun _ => ?_
  intro before ahead t hat hnone
  rcases bind_eq_none_iff.mp hnone with hnone | ⟨c, t₁, hcursor, hnone⟩
  · cases hnone
  cases hcursor
  rcases bind_eq_none_iff.mp hnone with hnone | ⟨_, t₂, hrequire, hcopies⟩
  · cases hnone
  obtain ⟨rfl, hremain⟩ := expect_eq_ok_iff.mp hrequire
  obtain ⟨hx, hy⟩ := copy_point hat ((remain_eq_64_iff hat).mp hremain)
  rw [bind_of_ok hx, bind_of_ok hy] at hcopies
  cases hcopies

theorem pkcs8ec_eq_none_iff (hsize : input.length < 2 ^ 64) :
    sspKeyparserParseKeydataPkcs8ec input (start input) = none ↔
      ∃ found rest, HasAlgorithm found rest input ∧ eccKeyOid.length < found.length := by
  rw [← parseAlgorithm_eq_none_iff hsize, sspKeyparserParseKeydataPkcs8ec, bind_eq_none_iff]
  refine or_iff_left ?_
  rintro ⟨u, mid, halg, hnone⟩
  obtain ⟨_, _, before, -, -, hat₁⟩ := parseAlgorithm_sound hsize halg
  rcases bind_eq_none_iff.mp hnone with hnone | ⟨pos, t₂, hnamed, hnone⟩
  · exact total_parseNamedCurve hat₁ hnone
  obtain ⟨curve, octets, rfl, -, -, hpos, hat₂⟩ := parseNamedCurve_sound hat₁ hnamed
  rcases bind_eq_none_iff.mp hnone with hnone | ⟨_, t₃, hoctets, hnone⟩
  · exact (recognizes_parseWhole _).2 hat₂ hnone
  obtain ⟨_, key, -, hat₃⟩ := parseWhole_sound hat₂ hoctets
  rcases bind_eq_none_iff.mp hnone with hnone | ⟨_, t₄, hseq, hnone⟩
  · exact (recognizes_parseWhole _).2 hat₃ hnone
  obtain ⟨_, contents, -, hat₄⟩ := parseWhole_sound hat₃ hseq
  rcases bind_eq_none_iff.mp hnone with hnone | ⟨_, t₅, hver, hnone⟩
  · exact (recognizes_parseLiteral (by decide)).2 hat₄ hnone
  obtain ⟨ahead, -, hat₅⟩ := parseLiteral_sound (by decide) hat₄ hver
  rcases bind_eq_none_iff.mp hnone with hnone | ⟨d, t₆, hpriv, hnone⟩
  · exact total_parsePrivateKey hat₅ hnone
  obtain ⟨privateKey, ahead, -, -, hat₆⟩ := recognizes_parsePrivateKey.sound hat₅ hpriv
  rcases bind_eq_none_iff.mp hnone with hnone | ⟨_, t₇, hparams, hnone⟩
  · refine parseParameters_ne_none hat₆ ?_ hnone
    simp only [List.length_append] at hpos ⊢
    omega
  obtain ⟨_, _, publicKey, -, -, -, hat₇⟩ := parseParameters_sound hat₆ hparams
  rcases bind_eq_none_iff.mp hnone with hnone | ⟨_, _, -, hnone⟩
  · exact total_parsePublicKey hat₇ hnone
  · cases hnone

theorem HasAlgorithm.unique {found found' rest rest' : List Byte} (h : HasAlgorithm found rest input)
    (h' : HasAlgorithm found' rest' input) : found = found' ∧ rest = rest' := by
  obtain ⟨len, length, element, helem, hlen, -, hoid⟩ := h
  obtain ⟨len', length', element', helem', hlen', -, hoid'⟩ := h'
  have hcontents := helem.unique_body helem'
  simp only [List.cons_append, List.nil_append, List.cons.injEq, true_and] at hcontents
  obtain ⟨-, -, hbehind⟩ := hlen.unique hlen' hcontents
  obtain ⟨rfl, -, rfl⟩ := hoid.unique hoid' hbehind
  exact ⟨rfl, rfl⟩

variable {params params' : Option (List Byte)}

theorem Parameters.unique {publicKey publicKey' point point' bytes bytes' : List Byte}
    (h : Parameters publicKey params bytes) (h' : Parameters publicKey' params' bytes')
      (hkey : PublicKey point publicKey)
    (hkey' : PublicKey point' publicKey') (heq : bytes ++ publicKey = bytes' ++ publicKey') : params = params' := by
  cases params with
  | none =>
    obtain rfl : bytes = [] := h
    cases params' with
    | none => rfl
    | some oid' =>
      obtain ⟨len, length, element, rfl, -⟩ := h'
      exact absurd heq (hkey.head _)
  | some oid =>
    obtain ⟨len, length, element, rfl, hlen, -, hoid⟩ := h
    cases params' with
    | none =>
      obtain rfl : bytes' = [] := h'
      exact absurd heq.symm (hkey'.head _)
    | some oid' =>
      obtain ⟨len', length', element', rfl, hlen', -, hoid'⟩ := h'
      simp only [List.cons_append, List.cons.injEq, true_and, List.append_assoc] at heq
      obtain ⟨-, -, hbehind⟩ := hlen.unique hlen' heq
      obtain ⟨rfl, -⟩ := hoid.unique hoid' hbehind
      rfl

theorem Pkcs8Ec.unique {found found' tail tail' : List Byte}
    (h : Pkcs8Ec found params tail input) (h' : Pkcs8Ec found' params' tail' input) :
    found = found' ∧ params = params' ∧ tail = tail' := by
  obtain ⟨curve, octets, key, privateKey, d, parameters, publicKey, point, hhas, hcurve, rfl, hkey, hcontents, hpriv, -,
    hparams, hpoint⟩ := h
  obtain ⟨curve', octets', key', privateKey', d', parameters', publicKey', point', hhas', hcurve', rfl, hkey',
    hcontents', hpriv', -, hparams', hpoint'⟩ := h'
  obtain ⟨rfl, hbehind⟩ := hhas.unique hhas'
  obtain ⟨-, -, rfl⟩ := hcurve.unique hcurve' hbehind
  obtain rfl := hkey.unique_body hkey'
  have hfields := List.append_cancel_left (hcontents.unique_body hcontents')
  obtain ⟨-, -, hbehind⟩ := hpriv.unique hpriv' hfields
  exact ⟨rfl, hparams.unique hparams' hpoint hpoint' hbehind, rfl⟩

structure RsaOidExact (input : List Byte) : Prop where
  inside : sspKeyparserParseKeydataPkcs8rsa input (start input) ≠ none
  algorithm : ∀ t data, sspKeyparserParseKeydataPkcs8rsa input (start input) = some (t, .ok data) →
    ∃ rest, HasAlgorithm rsaKeyOid rest input

structure EcOidExact (input : List Byte) : Prop where
  inside : sspKeyparserParseKeydataPkcs8ec input (start input) ≠ none
  algorithm : ∀ t data, sspKeyparserParseKeydataPkcs8ec input (start input) = some (t, .ok data) →
    ∃ rest, HasAlgorithm eccKeyOid rest input
  parameters : ∀ t data, sspKeyparserParseKeydataPkcs8ec input (start input) = some (t, .ok data) →
    ∀ found oid tail, Pkcs8Ec found (some oid) tail input → oid = eccP256Oid

def RsaOidLength (input : List Byte) : Prop :=
  (∀ found rest, HasAlgorithm found rest input → found.length ≤ rsaKeyOid.length) ∧
    ∀ found vals, Pkcs8Rsa found vals input → found <+: rsaKeyOid → rsaKeyOid.length ≤ found.length

def EcOidLength (input : List Byte) : Prop :=
  (∀ found rest, HasAlgorithm found rest input → found.length ≤ eccKeyOid.length) ∧
    ∀ found params tail, Pkcs8Ec found params tail input → found <+: eccKeyOid → (∀ oid ∈ params, oid <+: tail) →
      eccKeyOid.length ≤ found.length ∧ ∀ oid ∈ params, oid.length = eccP256Oid.length

variable {found : List Byte}

theorem Pkcs8Rsa.hasAlgorithm {vals : List (List Byte)} (h : Pkcs8Rsa found vals input) :
    ∃ rest, HasAlgorithm found rest input := by
  obtain ⟨⟨octets, key, integers, hhas, -⟩, -⟩ := h
  exact ⟨_, hhas⟩

variable {tail : List Byte}

theorem Pkcs8Ec.hasAlgorithm (h : Pkcs8Ec found params tail input) : ∃ rest, HasAlgorithm found rest input := by
  obtain ⟨curve, octets, key, privateKey, d, parameters, publicKey, point, hhas, -⟩ := h
  exact ⟨_, hhas⟩

theorem Pkcs8Ec.prefix_tail (h : Pkcs8Ec found params tail input) : eccP256Oid <+: tail := by
  obtain ⟨curve, octets, key, privateKey, d, parameters, publicKey, point, -, -, rfl, -⟩ := h
  exact List.prefix_append _ _

theorem rsaOidExact_iff_length (hsize : input.length < 2 ^ 64) : RsaOidExact input ↔ RsaOidLength input := by
  constructor
  · intro h
    refine ⟨fun found rest hhas => ?_, fun found vals hkey hfront => ?_⟩
    · by_contra hlong
      exact h.inside ((pkcs8rsa_eq_none_iff hsize).mpr ⟨found, rest, hhas, by omega⟩)
    · obtain ⟨t, hrun⟩ := (pkcs8rsa_ok_iff hsize _).mpr ⟨found, vals, hkey, hfront, rfl⟩
      obtain ⟨rest, hhas⟩ := h.algorithm t _ hrun
      obtain ⟨rest', hhas'⟩ := hkey.hasAlgorithm
      rw [(hhas.unique hhas').1]
  · rintro ⟨hlong, hshort⟩
    refine ⟨fun hnone => ?_, fun t data hrun => ?_⟩
    · obtain ⟨found, rest, hhas, hless⟩ := (pkcs8rsa_eq_none_iff hsize).mp hnone
      have hle := hlong found rest hhas
      omega
    · obtain ⟨found, vals, hkey, hfront, -⟩ := (pkcs8rsa_ok_iff hsize data).mp ⟨t, hrun⟩
      obtain ⟨rest, hhas⟩ := hkey.hasAlgorithm
      have hsame : found = rsaKeyOid := hfront.eq_of_length_le (hshort found vals hkey hfront)
      exact ⟨rest, hsame ▸ hhas⟩

theorem ecOidExact_iff_length (hsize : input.length < 2 ^ 64) : EcOidExact input ↔ EcOidLength input := by
  constructor
  · intro h
    refine ⟨fun found rest hhas => ?_, fun found params tail hkey hfront hoids => ?_⟩
    · by_contra hlong
      exact h.inside ((pkcs8ec_eq_none_iff hsize).mpr ⟨found, rest, hhas, by omega⟩)
    · obtain ⟨t, data, hrun⟩ := (pkcs8ec_ok_iff hsize).mpr ⟨found, params, tail, hkey, hfront, hoids⟩
      constructor
      · obtain ⟨rest, hhas⟩ := h.algorithm t data hrun
        obtain ⟨rest', hhas'⟩ := hkey.hasAlgorithm
        rw [(hhas.unique hhas').1]
      · rintro oid ⟨⟩
        rw [h.parameters t data hrun found oid tail hkey]
  · rintro ⟨hlong, hshort⟩
    refine ⟨fun hnone => ?_, fun t data hrun => ?_, fun t data hrun found oid tail hkey => ?_⟩
    · obtain ⟨found, rest, hhas, hless⟩ := (pkcs8ec_eq_none_iff hsize).mp hnone
      have hle := hlong found rest hhas
      omega
    · obtain ⟨found, params, tail, hkey, hfront, hoids⟩ := (pkcs8ec_ok_iff hsize).mp ⟨t, data, hrun⟩
      obtain ⟨rest, hhas⟩ := hkey.hasAlgorithm
      have hsame : found = eccKeyOid := hfront.eq_of_length_le (hshort found params tail hkey hfront hoids).1
      exact ⟨rest, hsame ▸ hhas⟩
    · obtain ⟨found', params, tail', hkey', hfront, hoids⟩ := (pkcs8ec_ok_iff hsize).mp ⟨t, data, hrun⟩
      obtain ⟨rfl, rfl, rfl⟩ := hkey.unique hkey'
      have hlen := (hshort found _ tail hkey hfront hoids).2 oid rfl
      exact (List.prefix_of_prefix_length_le (hoids oid rfl) hkey.prefix_tail hlen.le).eq_of_length hlen

/-- The parsers accept keys of the declared algorithm only, and compare nothing but the OIDs, if and only if the OIDs
have the lengths that are not checked. -/
theorem oidExact_iff (input : List Byte) (hsize : input.length < 2 ^ 64) :
    (RsaOidExact input ↔ RsaOidLength input) ∧ (EcOidExact input ↔ EcOidLength input) :=
  ⟨rsaOidExact_iff_length hsize, ecOidExact_iff_length hsize⟩

def onesKey (oid : List Byte) : List Byte :=
  let octets := [0x04#8, 29, 0x30, 27, 0x02, 1, 0] ++ (List.replicate 8 [0x02#8, 1, 1]).flatten
  let algorithm := 0x06#8 :: ofNat 8 oid.length :: oid
  [0x30#8, ofNat 8 (3 + 2 + (oid.length + 2) + 2 + 31), 0x02, 1, 0, 0x30, ofNat 8 (oid.length + 4)] ++ algorithm ++
    [0x05#8, 0] ++ octets

theorem hasAlgorithm_onesKey {oid : List Byte} (hoid : oid.length < 80) :
    ∃ rest, HasAlgorithm oid rest (onesKey oid) := by
  have hshort : ∀ len : Nat, len < 128 → LengthBytes len [ofNat 8 len] := by
    intro len hlen
    have hform := LengthBytes.short (ofNat 8 len) (BitVec.lt_def.mpr (by simp; omega))
    rwa [BitVec.toNat_ofNat, Nat.mod_eq_of_lt (by omega)] at hform
  refine ⟨[0x05#8, 0] ++ ([0x04#8, 29, 0x30, 27, 0x02, 1, 0] ++ (List.replicate 8 [0x02#8, 1, 1]).flatten), oid.length +
    4, [ofNat 8 (oid.length + 4)], 0x06#8 :: [ofNat 8 oid.length] ++ oid,
    ⟨[ofNat 8 (3 + 2 + (oid.length + 2) + 2 + 31)], ?_, ?_⟩, hshort _ (by omega), ?_,
    [ofNat 8 oid.length], hshort _ (by omega), rfl⟩
  · convert hshort (3 + 2 + (oid.length + 2) + 2 + 31) (by omega) using 1
    simp
    omega
  · simp [onesKey]
  · simp

theorem oidExact_iff_rsaOid : RsaOidExact (onesKey rsaKeyOid) := by
  obtain ⟨rest, hhas⟩ := hasAlgorithm_onesKey (show rsaKeyOid.length < 80 by decide)
  refine (oidExact_iff (onesKey rsaKeyOid) (by decide)).1.mpr ⟨fun found rest' hhas' => ?_, fun found vals hkey _ => ?_⟩
  · rw [(hhas.unique hhas').1]
  · obtain ⟨rest', hhas'⟩ := hkey.hasAlgorithm
    rw [(hhas.unique hhas').1]

def parsedRsa (input : List Byte) : Option (List Byte) :=
  match sspKeyparserParseKeydataPkcs8rsa input (start input) with
  | some (_, .ok data) => some data
  | _ => none

theorem not_oidExact_emptyOid : ¬∀ input : List Byte, input.length < 2 ^ 64 → RsaOidExact input ∧ EcOidExact input := by
  intro h
  have hsome : (parsedRsa (onesKey [])).isSome := by decide +kernel
  obtain ⟨t, data, hrun⟩ : ∃ t data, sspKeyparserParseKeydataPkcs8rsa (onesKey []) (start (onesKey [])) =
      some (t, .ok data) := by
    rw [parsedRsa] at hsome
    split at hsome
    · rename_i t data hrun
      exact ⟨t, data, hrun⟩
    · cases hsome
  obtain ⟨rest, hhas⟩ := (h (onesKey []) (by decide)).1.algorithm t data hrun
  obtain ⟨rest', hhas'⟩ := hasAlgorithm_onesKey (show ([] : List Byte).length < 80 by decide)
  exact absurd (hhas.unique hhas').1 (by decide)

end ExynosHal.Strongbox.Pkcs8
