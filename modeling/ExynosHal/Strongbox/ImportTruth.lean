import ExynosHal.Strongbox.KeyRequests
import ExynosHal.Strongbox.SerializationRoundTrip

/-! # Parameters of an imported key

The first parameter under a tag is compared with the key, the others are not, and a size of zero counts as none.
-/

namespace ExynosHal.Strongbox.ImportTruth
open Library Library.BitString Params Serialization SerializationRoundTrip AuthorizationList Operation Ipc ParsedKey
  KeyRequests
open Procedure (expect_bind_eq_ok_iff modify_bind_eq_ok_iff ofOption_bind_eq_ok_iff)

section
variable {tag : Tag} {type : TagType} {htype : keymasterTagGetType tag = some type}

theorem valueUnder_ofType (value : Value (some type)) :
    valueUnder tag type htype (KeyParam.ofType tag type htype value) = some value := by
  have hcast : ∀ (other : Option TagType) (h : other = some type), h ▸ (h ▸ value : Value other) = value := by
    rintro _ rfl
    rfl
  exact (dif_pos rfl).trans (congrArg some (hcast _ htype))

theorem valueUnder_eq_none_iff {param : KeyParam} : valueUnder tag type htype param = none ↔ param.tag ≠ tag := by
  rw [valueUnder]
  split_ifs with h <;> simp [h]

theorem tagValues_append (a b : List KeyParam) :
    tagValues (a ++ b) tag type htype = tagValues a tag type htype ++ tagValues b tag type htype :=
  List.filterMap_append

theorem tagValues_eq_nil_iff (params : List KeyParam) :
    tagValues params tag type htype = [] ↔ hasTag params tag = false := by
  simp only [tagValues, List.filterMap_eq_nil_iff, valueUnder_eq_none_iff, hasTag, List.any_eq_false, decide_eq_true_eq,
    ne_eq]

theorem tagValues_of_hasTag {params : List KeyParam} (h : hasTag params tag = false) :
    tagValues params tag type htype = [] :=
  (tagValues_eq_nil_iff params).mpr h

end

theorem keySizes_append (a b : List KeyParam) : keySizes (a ++ b) = keySizes a ++ keySizes b := tagValues_append a b

theorem rsaExponents_append (a b : List KeyParam) : rsaExponents (a ++ b) = rsaExponents a ++ rsaExponents b :=
  tagValues_append a b

theorem ecCurves_append (a b : List KeyParam) : ecCurves (a ++ b) = ecCurves a ++ ecCurves b := tagValues_append a b

theorem keySizes_eq_nil_iff (params : List KeyParam) : keySizes params = [] ↔ hasTag params tagKeySize = false :=
  tagValues_eq_nil_iff params

theorem rsaExponents_eq_nil_iff (params : List KeyParam) :
    rsaExponents params = [] ↔ hasTag params tagRsaPublicExponent = false :=
  tagValues_eq_nil_iff params

section
variable (params : List KeyParam) (keysize : U32) (rsapubexp : U64)

def sentParams : List KeyParam := params ++ extraParams params ⟨false, keysize, rsapubexp⟩ ⟨0, 0⟩

theorem keySizes_sentParams (hkeysize : keysize ≠ 0) :
    keySizes (sentParams params keysize rsapubexp) = if keySizes params = [] then [keysize] else keySizes params := by
  have hself : keySizes [keySizeParam keysize] = [keysize] := by
    have hval : valueUnder tagKeySize .uint (by decide) (keySizeParam keysize) = some keysize := valueUnder_ofType _
    simp only [keySizes, tagValues, List.filterMap_cons, List.filterMap_nil, hval]
    rfl
  have hother : keySizes [rsaPublicExponentParam rsapubexp] = [] := tagValues_of_hasTag rfl
  rw [sentParams, keySizes_append, extraParams, keySizes_append, keySizes_append]
  simp only [Bool.false_eq_true, if_false, keySizes_eq_nil_iff, hkeysize, ne_eq, not_false_eq_true, true_and]
  have hnil : keySizes [] = [] := rfl
  split_ifs with hsize hexpo hexpo <;>
    simp only [List.nil_append, List.append_nil, (keySizes_eq_nil_iff params).mpr, *]

theorem rsaExponents_sentParams : rsaExponents (sentParams params keysize rsapubexp) =
      if rsaExponents params = [] ∧ rsapubexp ≠ 0 then [rsapubexp] else rsaExponents params := by
  have hself : rsaExponents [rsaPublicExponentParam rsapubexp] = [rsapubexp] := by
    have hval : valueUnder tagRsaPublicExponent .ulong (by decide) (rsaPublicExponentParam rsapubexp) =
        some rsapubexp :=
      valueUnder_ofType _
    simp only [rsaExponents, tagValues, List.filterMap_cons, List.filterMap_nil, hval]
    rfl
  have hother : rsaExponents [keySizeParam keysize] = [] := tagValues_of_hasTag rfl
  have hnil : rsaExponents [] = [] := rfl
  rw [sentParams, rsaExponents_append, extraParams, rsaExponents_append, rsaExponents_append]
  simp only [Bool.false_eq_true, if_false, rsaExponents_eq_nil_iff, and_comm]
  split_ifs with hsize hexpo hexpo <;>
    simp only [List.nil_append, List.append_nil, (rsaExponents_eq_nil_iff params).mpr, *]

theorem ecCurves_sentParams : ecCurves (sentParams params keysize rsapubexp) = ecCurves params := by
  have hsize : ecCurves [keySizeParam keysize] = [] := tagValues_of_hasTag rfl
  have hexpo : ecCurves [rsaPublicExponentParam rsapubexp] = [] := tagValues_of_hasTag rfl
  have hnil : ecCurves [] = [] := rfl
  rw [sentParams, ecCurves_append, extraParams, ecCurves_append, ecCurves_append]
  simp only [Bool.false_eq_true, if_false, hnil, List.nil_append]
  split_ifs <;> simp only [hsize, hexpo, hnil, List.append_nil]

end

variable {params : List KeyParam}

theorem calLoop_serializable {acc result : U32 × U32}
    (h : calLoop params acc = .ok result) : ∀ param ∈ params, Serializable param := by
  induction params generalizing acc with
  | nil => nofun
  | cons param params ih =>
    obtain ⟨calcSize, calcNum⟩ := acc
    rw [calLoop] at h
    have hsome : (keymasterTagGetType param.tag).isSome := by
      by_contra hnone
      have hval : ∀ (type : Option TagType) (value : Value type), ¬type.isSome → calValueLen type value =
          .error .invalidTag := by
        rintro (_ | type) value hnot
        · rfl
        · exact absurd rfl hnot
      rw [hval _ _ hnone] at h
      cases h
    rw [calValueLen_eq _ _ hsome] at h
    exact List.forall_mem_cons.mpr ⟨hsome, ih h⟩

theorem serialize_serializable {extra : ExtraParams} {now : Timeval} {result : U32 × List Byte}
    (h : sspSerializerSerializeParams params extra now = .ok result) : ∀ param ∈ params, Serializable param := by
  rcases hcal : serializerCalSerializedLen params with e | ⟨size, num⟩
  · rw [sspSerializerSerializeParams, hcal] at h
    cases h
  · exact calLoop_serializable hcal

theorem length_encodeParam {param : KeyParam} (h : Serializable param) : 8 ≤ (encodeParam param).length := by
  have hval : ∀ (type : Option TagType) (value : Value type), type.isSome → 4 ≤ (encodeValue type value).length := by
    intro type value hsome
    match type, value, hsome with
    | some type, value, _ =>
      cases type
      case bignum | bytes => exact (Nat.le_add_right 4 _).trans_eq (length_appendBlob value).symm
      case ulong | ulongRep | date => exact (show 4 ≤ 8 by decide).trans_eq (length_appendU64 value).symm
      case enum | enumRep | uint | uintRep => exact (length_appendU32 value).ge
      case bool => exact (length_appendU32 _).ge
  rw [encodeParam, List.length_append, length_appendU32]
  exact Nat.add_le_add_left (hval _ _ h) 4

theorem length_encodeParams (h : ∀ param ∈ params, Serializable param) :
    8 * params.length ≤ (encodeParams params).length := by
  induction params with
  | nil => exact Nat.le_refl _
  | cons param params ih =>
    obtain ⟨hparam, hparams⟩ := List.forall_mem_cons.mp h
    have hhead := length_encodeParam hparam
    have htail := ih hparams
    rw [encodeParams] at htail ⊢
    rw [List.flatMap_cons, List.length_append, List.length_cons]
    omega

variable {α : Type} {keysize : U32} {d d' : Draft} {a : α}

theorem deserialize_serializeParams {rsapubexp : U64} {f : U32 × List Byte → Builder α}
    (h : (serializeParams params keysize rsapubexp >>= f) d = some (d', .ok a)) :
    ∃ size blob, f (size, blob) d = some (d', .ok a) ∧ (size.toNat ≤ keyCharacteristicsCommonMaxLen →
      sspSerializerDeserializeParams (blob.take size.toNat) = .ok (sentParams params keysize rsapubexp, [])) := by
  obtain ⟨⟨size, blob⟩, hres, hrest⟩ := ofOption_bind_eq_ok_iff.mp h
  refine ⟨size, blob, hrest, fun hsize => ?_⟩
  obtain ⟨hser, hfits⟩ := serializedParams_eq_ok_iff.mp hres
  have htags := serialize_serializable hser
  cases hser.symm.trans (serialize_eq params _ _ htags)
  have hall : ∀ param ∈ sentParams params keysize rsapubexp, Serializable param := by
    intro param hmem
    rcases List.mem_append.mp hmem with hmem | hmem
    · exact htags param hmem
    · exact extraParams_serializable _ _ _ param hmem
  have hcnt := length_encodeParams hall
  rw [keyCharacteristicsCommonMaxLen] at hsize
  rw [List.length_append, length_appendU32] at hfits
  rw [sentParams] at hcnt hall ⊢
  rw [List.take_of_length_le (by rw [List.length_append, length_appendU32]; exact hfits)]
  have hread := deserialize_encodeParams _ [] hall (by omega) (by rw [keyparamsCountMax]; omega)
  rwa [List.append_nil] at hread

variable {args : ImportArgs} {algorithm : U32}

theorem importKeydata_exponent {f : List Byte × U64 → Builder α} (h : (importKeydata args algorithm >>= f) d =
    some (d', .ok a)) :
    ∃ parsed rsaExp, f (parsed, rsaExp) d = some (d', .ok a) ∧ if args.keyFormat = .pkcs8 ∧
    algorithm = kmAlgorithmRsa then
      sspKeyparserGetRsaExponentFromParsedkey parsed = some (.ok rsaExp) ∧ ∀ first ∈ (rsaExponents args.params).head?,
      first = rsaExp
    else rsaExp = 0 := by
  obtain ⟨⟨parsed, rsaExp⟩, mid, hkeydata, hrest⟩ := Procedure.bind_eq_ok_iff.mp h
  rw [importKeydata] at hkeydata
  split_ifs at hkeydata with hfmt hrsa hec
  · obtain ⟨parsed', -, hparsed⟩ := ofOption_bind_eq_ok_iff.mp hkeydata
    obtain ⟨rsaExp', hexpo, hread⟩ := ofOption_bind_eq_ok_iff.mp hparsed
    obtain ⟨hmatch, hend⟩ := expect_bind_eq_ok_iff.mp hread
    cases hend
    refine ⟨parsed, rsaExp, hrest, ?_⟩
    rw [if_pos ⟨hfmt, hrsa⟩]
    constructor
    · rcases hval : sspKeyparserGetRsaExponentFromParsedkey parsed with - | e | value
      · rw [hval] at hexpo
        cases hexpo
      · rw [hval] at hexpo
        cases hexpo
      · rw [hval] at hexpo
        cases hexpo
        rfl
    · intro first hfst
      rw [Option.mem_def.mp hfst] at hmatch
      exact of_decide_eq_true hmatch
  · obtain ⟨parsed', -, hend⟩ := ofOption_bind_eq_ok_iff.mp hkeydata
    cases hend
    exact ⟨parsed, 0, hrest, by rw [if_neg fun hboth => hrsa hboth.2]⟩
  · cases hkeydata
  · cases hkeydata
    exact ⟨_, 0, hrest, by rw [if_neg fun hboth => hfmt hboth.1]⟩

theorem checkSupportedKeySize_ne_zero (h : checkSupportedKeySize algorithm keysize) : keysize ≠ 0 := by
  rintro rfl
  rw [checkSupportedKeySize] at h
  split_ifs at h <;> simp at h

structure Reached (args : ImportArgs) (d : Draft) (imp : Import) (parsedKeySize : U32) (rsaExp : U64) : Prop where
  algorithm : (algorithms args.params).head? = some imp.algorithm
  exponent : if args.keyFormat = .pkcs8 ∧ imp.algorithm = kmAlgorithmRsa then
      sspKeyparserGetRsaExponentFromParsedkey imp.parsedKeydata = some (.ok rsaExp) ∧
        ∀ first ∈ (rsaExponents args.params).head?, first = rsaExp
    else rsaExp = 0
  size : sspKeyparserGetKeysizeFromParsedkey imp.parsedKeydata = some parsedKeySize
  given : importKeysize args.params imp.algorithm = 0 ∨
    importKeysize args.params imp.algorithm = realKeySize imp.algorithm parsedKeySize
  nonzero : realKeySize imp.algorithm parsedKeySize ≠ 0
  sent : sspSerializerDeserializeParams (d.message.contents (.of .importKeyparams)) =
    .ok (sentParams args.params (realKeySize imp.algorithm parsedKeySize) rsaExp, [])

theorem reached_of_run {imp : Import} (hrun : run (sspImportKey args) = some (d, .ok imp)) :
    ∃ parsedKeySize rsaExp, Reached args d imp parsedKeySize rsaExp := by
  obtain ⟨algorithm, halg, hrun⟩ := Procedure.ofExcept_bind_eq_ok_iff.mp hrun
  obtain ⟨parsed, rsaExp, hrun, hexpo⟩ := importKeydata_exponent hrun
  obtain ⟨-, hrun⟩ := expect_bind_eq_ok_iff.mp hrun
  obtain ⟨parsedKeySize, hsize, hrun⟩ := ofOption_bind_eq_ok_iff.mp hrun
  obtain ⟨-, hrun⟩ := expect_bind_eq_ok_iff.mp hrun
  obtain ⟨hgiven, hrun⟩ := expect_bind_eq_ok_iff.mp hrun
  obtain ⟨hsupp, hrun⟩ := expect_bind_eq_ok_iff.mp hrun
  obtain ⟨blobSize, blob, hrun, hread⟩ := deserialize_serializeParams hrun
  obtain ⟨hfits, hrun⟩ := expect_bind_eq_ok_iff.mp hrun
  iterate 5 replace hrun := modify_bind_eq_ok_iff.mp hrun
  obtain ⟨-, hrun⟩ := validate_bind_eq_ok_iff.mp hrun
  cases hrun
  have hgiven' : importKeysize args.params algorithm = 0 ∨
      importKeysize args.params algorithm = realKeySize algorithm parsedKeySize := by simpa using hgiven
  -- zero and the size of the key both end as the size of the key
  have hbits : (if importKeysize args.params algorithm ≠ 0 then importKeysize args.params algorithm
      else realKeySize algorithm parsedKeySize) = realKeySize algorithm parsedKeySize := by
    split_ifs with hzero
    · exact hgiven'.resolve_left hzero
    · rfl
  rw [hbits] at hsupp hread
  refine ⟨parsedKeySize, rsaExp, ?_, hexpo, ?_, hgiven', checkSupportedKeySize_ne_zero hsupp, ?_⟩
  · rcases hvals : algorithms args.params with - | ⟨first, rest⟩
    · rw [hvals] at halg
      cases halg
    · rw [hvals] at halg
      cases halg
      rfl
  · rcases hval : sspKeyparserGetKeysizeFromParsedkey parsed with - | value
    · rw [hval] at hsize
      cases hsize
    · rw [hval] at hsize
      cases hsize
      rfl
  · exact hread (of_decide_eq_true hfits)

def sizeOfKey (imp : Import) : Option U32 :=
  (sspKeyparserGetKeysizeFromParsedkey imp.parsedKeydata).map (realKeySize imp.algorithm)

def exponentOfKey (format : KeyFormat) (imp : Import) : Option U64 :=
  if format = .pkcs8 then
    match sspKeyparserGetRsaExponentFromParsedkey imp.parsedKeydata with
    | some (.ok e) => some e
    | _ => none
  else none

structure Truthful (format : KeyFormat) (imp : Import) (sent : List KeyParam) : Prop where
  present : keySizes sent ≠ []
  keySize : ∀ size ∈ keySizes sent, sizeOfKey imp = some size
  exponent : imp.algorithm = kmAlgorithmRsa → ∀ e ∈ rsaExponents sent, exponentOfKey format imp = some e
  curve : imp.algorithm = kmAlgorithmEc → ∀ curve ∈ ecCurves sent, curve = kmEcCurveP256

def SendsTruth (args : ImportArgs) (d : Draft) (imp : Import) : Prop :=
  ∃ sent, sspSerializerDeserializeParams (d.message.contents (.of .importKeyparams)) = .ok (sent, []) ∧
    Truthful args.keyFormat imp sent

structure ParamsAgree (args : ImportArgs) : Prop where
  keySize : ∀ a ∈ keySizes args.params, a ≠ 0 ∧ ∀ b ∈ keySizes args.params, a = b
  exponent : (algorithms args.params).head? = some kmAlgorithmRsa →
    if args.keyFormat = .pkcs8 then ∀ a ∈ rsaExponents args.params, ∀ b ∈ rsaExponents args.params, a = b
    else rsaExponents args.params = []
  curve : (algorithms args.params).head? = some kmAlgorithmEc → ∀ curve ∈ ecCurves args.params, curve = kmEcCurveP256

section
variable {args : ImportArgs} {d : Draft} {imp : Import} {parsedKeySize : U32} {rsaExp : U64}

variable (h : Reached args d imp parsedKeySize rsaExp)
include h

theorem Reached.sizeOfKey_eq : sizeOfKey imp = some (realKeySize imp.algorithm parsedKeySize) := by
  rw [sizeOfKey, h.size]
  rfl

theorem Reached.keySize_iff : (∀ size ∈ keySizes args.params, sizeOfKey imp = some size) ↔
      ∀ a ∈ keySizes args.params, a ≠ 0 ∧ ∀ b ∈ keySizes args.params, a = b := by
  have hgiven := h.given
  rw [h.sizeOfKey_eq]
  simp only [Option.some.injEq]
  constructor
  · intro hall a ha
    refine ⟨hall a ha ▸ h.nonzero, fun b hb => (hall a ha).symm.trans (hall b hb)⟩
  · intro hagree size hmem
    rcases hsizes : keySizes args.params with - | ⟨first, rest⟩
    · rw [hsizes] at hmem
      cases hmem
    · have hfst : first ∈ keySizes args.params := hsizes ▸ List.mem_cons_self
      rw [importKeysize, hsizes] at hgiven
      rw [← hgiven.resolve_left (hagree first hfst).1]
      exact (hagree first hfst).2 size hmem

theorem Reached.exponent_iff (hrsa : imp.algorithm = kmAlgorithmRsa) :
    (∀ e ∈ rsaExponents (sentParams args.params (realKeySize imp.algorithm parsedKeySize) rsaExp),
      exponentOfKey args.keyFormat imp = some e) ↔
    if args.keyFormat = .pkcs8 then ∀ a ∈ rsaExponents args.params, ∀ b ∈ rsaExponents args.params, a = b
    else rsaExponents args.params = [] := by
  have hexpo := h.exponent
  rw [rsaExponents_sentParams]
  by_cases hfmt : args.keyFormat = .pkcs8
  · rw [if_pos ⟨hfmt, hrsa⟩] at hexpo
    obtain ⟨hread, hfst⟩ := hexpo
    have hkey : exponentOfKey args.keyFormat imp = some rsaExp := by
      rw [exponentOfKey, if_pos hfmt, hread]
    rw [if_pos hfmt, hkey]
    simp only [Option.some.injEq]
    rcases hvals : rsaExponents args.params with - | ⟨first, rest⟩
    · split_ifs <;> simp
    · rw [hvals] at hfst
      obtain rfl := hfst first rfl
      rw [if_neg (by simp)]
      constructor
      · intro hall a ha b hb
        exact (hall a ha).symm.trans (hall b hb)
      · intro hagree e he
        exact hagree first List.mem_cons_self e he
  · rw [if_neg fun hboth => hfmt hboth.1] at hexpo
    have hkey : exponentOfKey args.keyFormat imp = none := by rw [exponentOfKey, if_neg hfmt]
    rw [if_neg hfmt, hkey, if_neg fun hboth => hboth.2 hexpo]
    simp [List.eq_nil_iff_forall_not_mem]

theorem Reached.truth_iff : SendsTruth args d imp ↔ ParamsAgree args := by
  have hsizes := keySizes_sentParams args.params _ rsaExp h.nonzero
  have hhead : ∀ algorithm, (algorithms args.params).head? = some algorithm ↔ imp.algorithm = algorithm := by
    intro algorithm
    rw [h.algorithm, Option.some.injEq]
  constructor
  · rintro ⟨sent, hsent, htrue⟩
    cases hsent.symm.trans h.sent
    refine ⟨h.keySize_iff.mp fun size hmem => htrue.keySize size ?_, fun hrsa => ?_, fun hec => ?_⟩
    · rw [hsizes, if_neg (List.ne_nil_of_mem hmem)]
      exact hmem
    · exact (h.exponent_iff ((hhead _).mp hrsa)).mp (htrue.exponent ((hhead _).mp hrsa))
    · have hcurve := htrue.curve ((hhead _).mp hec)
      rwa [ecCurves_sentParams] at hcurve
  · intro hagree
    refine ⟨_, h.sent, ?_, ?_, fun hrsa => ?_, fun hec => ?_⟩
    · rw [hsizes]
      split_ifs with hnone
      · exact List.cons_ne_nil _ _
      · exact hnone
    · rw [hsizes]
      split_ifs with hnone
      · intro size hmem
        rw [List.mem_singleton.mp hmem, h.sizeOfKey_eq]
      · exact h.keySize_iff.mpr hagree.keySize
    · exact (h.exponent_iff hrsa).mpr (hagree.exponent ((hhead _).mpr hrsa))
    · rw [ecCurves_sentParams]
      exact hagree.curve ((hhead _).mpr hec)

end

/-- A key that gets as far as the command is sent with true parameters if and only if those of the caller agree. -/
theorem sendsTruth_iff (args : ImportArgs) (d : Draft) (imp : Import)
    (hrun : run (sspImportKey args) = some (d, .ok imp)) : SendsTruth args d imp ↔ ParamsAgree args := by
  obtain ⟨parsedKeySize, rsaExp, hreached⟩ := reached_of_run hrun
  exact hreached.truth_iff

def aesImport (keysize : U32) : ImportArgs where
  params := [KeyParam.ofType tagAlgorithm .enum type_tagAlgorithm kmAlgorithmAes, keySizeParam keysize]
  keyFormat := .raw
  keyData := List.replicate 16 0x5a#8
  wantsCharacteristics := false

def reachesCommand (args : ImportArgs) : Bool :=
  match run (sspImportKey args) with
  | some (_, .ok _) => true
  | _ => false

theorem exists_run_of_reachesCommand (h : reachesCommand args) :
    ∃ d imp, run (sspImportKey args) = some (d, .ok imp) := by
  rw [reachesCommand] at h
  split at h
  · rename_i d imp hrun
    exact ⟨d, imp, hrun⟩
  · cases h

theorem sendsTruth_iff_aes :
    ∃ d imp, run (sspImportKey (aesImport 128)) = some (d, .ok imp) ∧ SendsTruth (aesImport 128) d imp := by
  obtain ⟨d, imp, hrun⟩ := exists_run_of_reachesCommand (show reachesCommand (aesImport 128) = true by decide)
  have hsizes : keySizes (aesImport 128).params = [128] := by decide
  have halg : (algorithms (aesImport 128).params).head? = some kmAlgorithmAes := by decide
  refine ⟨d, imp, hrun, (sendsTruth_iff (aesImport 128) d imp hrun).mpr ⟨?_, ?_, ?_⟩⟩
  · rw [hsizes]
    simp
  · rw [halg]
    intro hrsa
    exact absurd (Option.some.inj hrsa) (by decide)
  · rw [halg]
    intro hec
    exact absurd (Option.some.inj hec) (by decide)

theorem not_sendsTruth_zeroSize :
    ¬∀ (args : ImportArgs) (d : Draft) (imp : Import), run (sspImportKey args) = some (d, .ok imp) →
    SendsTruth args d imp := by
  intro hall
  obtain ⟨d, imp, hrun⟩ := exists_run_of_reachesCommand (show reachesCommand (aesImport 0) = true by decide)
  obtain ⟨parsedKeySize, rsaExp, hreached⟩ := reached_of_run hrun
  have hzero : (0 : U32) ∈ keySizes (aesImport 0).params := by decide
  exact ((hreached.truth_iff.mp (hall _ d imp hrun)).keySize 0 hzero).1 rfl

end ExynosHal.Strongbox.ImportTruth
