import ExynosHal.Strongbox.AuthorizationList
import ExynosHal.Strongbox.SerializationRoundTrip

/-! # The sizing pass bounds the writing pass

What the writing pass appends is always a list of encoded parameters.
-/

namespace ExynosHal.Strongbox.AuthorizationListAgree
open Library.BitString Params Serialization SerializationRoundTrip AuthorizationList
open List (append_nil flatMap_cons length_append length_cons mem_singleton)

section
variable {σ : Type} {visit : Visit σ}

@[simp] theorem walkAuthlist_nil (table : List Tag) (s : σ) : walkAuthlist visit table [] s = (s, .ok ()) := by
  rw [walkAuthlist, if_pos rfl]

theorem walkAuthlist_visit {table rest : List Tag} {data pos : List Byte} {tag tagLen : Nat} {authTag : Tag}
    (hread : derParserReadTagWithLength data = some (tag, tagLen, pos))
    (hfind : table.dropWhile (fun entry => getTagId entry ≠ tag) = authTag :: rest) (s : σ) :
    walkAuthlist visit table data s =
      match visit authTag (pos.take tagLen) s with
      | (s, .error e) => (s, .error e)
      | (s, .ok _) => walkAuthlist visit (authTag :: rest) (pos.drop tagLen) s := by
  have hdata : data ≠ [] := by
    rintro rfl
    cases hread
  rw [walkAuthlist, if_neg hdata]
  split
  · rename_i hnone
    rw [hread] at hnone
    cases hnone
  · rename_i tag' tagLen' pos' hsome
    rw [hread] at hsome
    cases hsome
    generalize table.dropWhile (fun entry => getTagId entry ≠ tag) = found at hfind ⊢
    subst hfind
    rfl

variable {table : List Tag} {data : List Byte} {s s' : σ}

theorem walkAuthlist_ok (h : walkAuthlist visit table data s = (s', .ok ())) : data = [] ∧ s' = s ∨
      ∃ tag tagLen pos authTag rest mid, derParserReadTagWithLength data = some (tag, tagLen, pos) ∧
        table.dropWhile (fun entry => getTagId entry ≠ tag) = authTag :: rest ∧
        visit authTag (pos.take tagLen) s = (mid, .ok ()) ∧
        walkAuthlist visit (authTag :: rest) (pos.drop tagLen) mid = (s', .ok ()) := by
  rw [walkAuthlist] at h
  split at h
  · cases h
    exact .inl ⟨‹data = []›, rfl⟩
  · split at h
    · cases h
    · rename_i tag tagLen pos hread
      split at h
      · cases h
      · rename_i authTag rest hfind
        split at h
        · cases h
        · rename_i mid _ hvisit
          exact .inr ⟨tag, tagLen, pos, authTag, rest, mid, hread, hfind, hvisit, h⟩

theorem walkAuthlist_induction {motive : List Tag → List Byte → σ → σ → Prop} (nil : ∀ table s, motive table [] s s)
    (step : ∀ table data s s' tag tagLen pos authTag rest mid,
      derParserReadTagWithLength data = some (tag, tagLen, pos) →
      table.dropWhile (fun entry => getTagId entry ≠ tag) = authTag :: rest →
      visit authTag (pos.take tagLen) s = (mid, .ok ()) →
      motive (authTag :: rest) (pos.drop tagLen) mid s' → motive table data s s') (h :
      walkAuthlist visit table data s = (s', .ok ())) :
    motive table data s s' := by
  induction data using (measure List.length).wf.induction generalizing table s with
  | h data ih =>
    obtain ⟨rfl, rfl⟩ | ⟨tag, tagLen, pos, authTag, rest, mid, hread, hfind, hvisit, hrest⟩ := walkAuthlist_ok h
    · exact nil table s'
    · refine step _ _ _ _ tag tagLen pos authTag rest mid hread hfind hvisit (ih _ ?_ hrest)
      have := derParserReadTagWithLength_lt hread
      change (pos.drop tagLen).length < data.length
      rw [List.length_drop]
      omega

end

def tagTypes : Asn1Type → List TagType
  | .setOfInteger => [.enumRep]
  | .integerU32 => [.enum, .uint]
  | .integerU64 => [.ulong, .ulongRep, .date]
  | .null => [.bool]
  | .octetString => [.bytes]
  | .rootOfTrust => [.bytes]

variable {authTag : Tag}

theorem asn1Type_tagType {shape : Asn1Type} (h : asn1Type authTag = some shape) :
    ∃ type ∈ tagTypes shape, keymasterTagGetType authTag = some type := by
  have hlist : ∀ (labels : List Tag), authTag ∈ labels →
      (labels.all fun label => (keymasterTagGetType label).any fun type => type ∈ tagTypes shape) →
      ∃ type ∈ tagTypes shape, keymasterTagGetType authTag = some type := by
    intro labels hmem hall
    obtain ⟨type, htype, hshape⟩ := (Option.any_eq_true _ _).mp (List.all_eq_true.mp hall authTag hmem)
    exact ⟨type, of_decide_eq_true hshape, htype⟩
  rw [asn1Type] at h
  split_ifs at h with h1 h2 h3 h4 h5 h6 h7 h8
  all_goals cases h
  · exact hlist _ h1 (by decide)
  · exact hlist _ h2 (by decide)
  · exact hlist _ h3 (by decide)
  · exact hlist _ h4 (by decide)
  · exact hlist _ h5 (by decide)
  · exact hlist _ h6 (by decide)
  · exact hlist _ h7 (by decide)
  · exact hlist [tagRootOfTrust] (mem_singleton.mpr h8) (by decide)

def IsParam (bytes : List Byte) : Prop := ∃ param, Serializable param ∧ encodeParam param = bytes

theorem isParam_set (h : asn1Type authTag = some .setOfInteger) (val : U32) :
    IsParam (appendU32 authTag ++ appendU32 val) := by
  obtain ⟨type, hmem, htype⟩ := asn1Type_tagType h
  cases mem_singleton.mp hmem
  exact ⟨.ofType authTag .enumRep htype val, serializable_ofType _ _ _ _, encodeParam_ofType _ _ _ _⟩

theorem isParam_u32 (h : asn1Type authTag = some .integerU32) (val : U32) :
    IsParam (appendU32 authTag ++ appendU32 val) := by
  obtain ⟨type, hmem, htype⟩ := asn1Type_tagType h
  simp only [tagTypes, List.mem_cons, List.not_mem_nil, or_false] at hmem
  rcases hmem with rfl | rfl
  · exact ⟨.ofType authTag .enum htype val, serializable_ofType _ _ _ _, encodeParam_ofType _ _ _ _⟩
  · exact ⟨.ofType authTag .uint htype val, serializable_ofType _ _ _ _, encodeParam_ofType _ _ _ _⟩

theorem isParam_u64 (h : asn1Type authTag = some .integerU64) (val : U64) :
    IsParam (appendU32 authTag ++ appendU64 val) := by
  obtain ⟨type, hmem, htype⟩ := asn1Type_tagType h
  simp only [tagTypes, List.mem_cons, List.not_mem_nil, or_false] at hmem
  rcases hmem with rfl | rfl | rfl
  · exact ⟨.ofType authTag .ulong htype val, serializable_ofType _ _ _ _, encodeParam_ofType _ _ _ _⟩
  · exact ⟨.ofType authTag .ulongRep htype val, serializable_ofType _ _ _ _, encodeParam_ofType _ _ _ _⟩
  · exact ⟨.ofType authTag .date htype val, serializable_ofType _ _ _ _, encodeParam_ofType _ _ _ _⟩

theorem isParam_null (h : asn1Type authTag = some .null) : IsParam (appendU32 authTag ++ appendU32 1#32) := by
  obtain ⟨type, hmem, htype⟩ := asn1Type_tagType h
  cases mem_singleton.mp hmem
  exact ⟨.ofType authTag .bool htype true, serializable_ofType _ _ _ _, encodeParam_ofType _ _ _ _⟩

def Fits (num len : Nat) (out : KeyParamsOut) (result : KeyParamsOut × Except KmError Unit) : Prop :=
  ∃ params, result.1.keyParams = out.keyParams ++ encodeParams params ∧ (∀ param ∈ params, Serializable param) ∧
    (encodeParams params).length ≤ len ∧
    (result.2 = .ok () → params.length = num ∧ (encodeParams params).length = len)

theorem fits_invalidArgument (num len : Nat) (out : KeyParamsOut) : Fits num len out (invalidArgument out) :=
  ⟨[], (append_nil _).symm, List.forall_mem_nil _, Nat.zero_le _, fun h => by cases h⟩

theorem fits_nil (out : KeyParamsOut) : Fits 0 0 out (out, .ok ()) :=
  ⟨[], (append_nil _).symm, List.forall_mem_nil _, Nat.zero_le _, fun _ => ⟨rfl, rfl⟩⟩

variable {out : KeyParamsOut} {bytes : List Byte}

theorem fits_cons {num len : Nat} {result : KeyParamsOut × Except KmError Unit} (hbytes : IsParam bytes)
    (h : Fits num len (out.append bytes) result) : Fits (num + 1) (bytes.length + len) out result := by
  obtain ⟨param, hparam, rfl⟩ := hbytes
  obtain ⟨params, hwritten, hparams, hle, hok⟩ := h
  refine ⟨param :: params, ?_, List.forall_mem_cons.mpr ⟨hparam, hparams⟩, ?_, ?_⟩
  · rw [hwritten, KeyParamsOut.append, List.append_assoc]
    rfl
  · rw [encodeParams, flatMap_cons, length_append]
    exact Nat.add_le_add_left hle _
  · intro hres
    obtain ⟨hnum, hlen⟩ := hok hres
    rw [encodeParams, flatMap_cons, length_append]
    exact ⟨congrArg (· + 1) hnum, congrArg (_ + ·) hlen⟩

theorem fits_single {out out' : KeyParamsOut} (hbytes : IsParam bytes)
    (hout : out'.keyParams = (out.append bytes).keyParams) : Fits 1 bytes.length out (out', .ok ()) := by
  obtain ⟨param, hparam, rfl⟩ := hbytes
  refine ⟨[param], ?_, ?_, ?_, ?_⟩
  · rw [hout, encodeParams, List.flatMap_singleton]
    rfl
  · exact List.forall_mem_singleton.mpr hparam
  · rw [encodeParams, List.flatMap_singleton]
  · rintro -
    rw [encodeParams, List.flatMap_singleton]
    exact ⟨rfl, rfl⟩

theorem serializeSetLoop_fits (h : asn1Type authTag = some .setOfInteger) (content : List Byte)
    (out : KeyParamsOut) (hlen : content.length % 3 = 0) :
    Fits (content.length / 3) (8 * (content.length / 3)) out (serializeSetLoop authTag content out) := by
  fun_induction serializeSetLoop authTag content out with
  | case1 val rest out ih =>
    simp only [length_cons] at hlen
    have hthird : (2#8 :: 1#8 :: val :: rest).length / 3 = rest.length / 3 + 1 := by
      simp only [length_cons]
      omega
    have hfits := fits_cons (isParam_set h (val.setWidth 32)) (ih (by omega))
    rw [hthird, Nat.mul_add, Nat.add_comm (8 * _)]
    simpa using hfits
  | case2 => exact fits_invalidArgument _ _ _
  | case3 => exact fits_invalidArgument _ _ _
  | case4 content out hshort =>
    have hnil : content = [] := by
      match content, hshort, hlen with
      | [], _, _ => rfl
      | [_], _, hlen => simp at hlen
      | [_, _], _, hlen => simp at hlen
      | type :: len :: val :: rest, hshort, _ => exact absurd rfl (hshort type len val rest)
    rw [hnil]
    exact fits_nil out

theorem length_of_shortContent {type : Byte} {data content : List Byte} (h : shortContent type data = some content) :
    data.length = content.length + 2 := by
  match data, h with
  | first :: second :: tail, h =>
    obtain ⟨-, hcontent⟩ := Option.ite_none_right_eq_some.mp h
    cases hcontent
    rfl

theorem parseAsn1OctetString_fails (data : List Byte) (size : ListSize) :
    authorizationListParseAsn1OctetString data size = invalidArgument size := by
  rw [authorizationListParseAsn1OctetString]
  split
  · rfl
  · rename_i retLen pos hread
    refine if_neg ?_
    rintro ⟨hlen, hpos⟩
    match data, hread with
    | val :: data, hread =>
      obtain ⟨-, hlength⟩ := Option.ite_none_right_eq_some.mp hread
      have := derParserGetLength_bounds hlength
      simp only [length_cons] at hlen
      omega

def Covers (data : List Byte) (size size' : ListSize) (out : KeyParamsOut)
    (result : KeyParamsOut × Except KmError Unit) : Prop :=
  ∃ num len, size' = size.add num len ∧ len ≤ 3 * data.length + 6 ∧ Fits num len out result

section
variable {authTag : Tag} {data : List Byte} {size size' : ListSize}

theorem covers_setOfInteger (hshape : asn1Type authTag = some .setOfInteger) (out : KeyParamsOut)
    (h : authorizationListParseAsn1SetOfInteger data size = (size', .ok ())) :
    Covers data size size' out (authorizationListSerializeTagSetOfInteger authTag data out) := by
  rw [authorizationListParseAsn1SetOfInteger] at h
  rw [authorizationListSerializeTagSetOfInteger]
  cases hcontent : shortContent 0x31#8 data with
  | none =>
    rw [hcontent] at h
    cases h
  | some content =>
    have hlen := length_of_shortContent hcontent
    have hnum : data.length - 2 = content.length := by omega
    rw [hcontent] at h
    dsimp only at h ⊢
    split_ifs at h with hthree
    · cases h
      refine ⟨_, _, rfl, by omega, ?_⟩
      rw [hnum, if_pos (by omega)]
      exact serializeSetLoop_fits hshape content out (by omega)
    · cases h

theorem covers_integer {valueLen : Nat} (hvalLen : valueLen ≤ 8) (maxLen : Nat) (appendValue : List Byte → List Byte)
    (hlen : ∀ content, (appendValue content).length = valueLen)
    (hparam : ∀ content, IsParam (appendU32 authTag ++ appendValue content)) (out : KeyParamsOut)
    (h : parseAsn1Integer valueLen data size = (size', .ok ())) :
    Covers data size size' out (serializeTagInteger maxLen appendValue authTag data out) := by
  rw [parseAsn1Integer] at h
  rw [serializeTagInteger]
  cases hcontent : shortContent 0x02#8 data with
  | none =>
    rw [hcontent] at h
    cases h
  | some content =>
    have hlength := length_of_shortContent hcontent
    have hbytes : (appendU32 authTag ++ appendValue content).length = 4 + valueLen := by
      rw [length_append, length_appendU32, hlen]
    rw [hcontent] at h
    cases h
    refine ⟨1, 4 + valueLen, rfl, by omega, ?_⟩
    dsimp only
    split_ifs
    · rw [← hbytes]
      exact fits_single (hparam content) rfl
    · exact fits_invalidArgument _ _ _

theorem covers_null (hshape : asn1Type authTag = some .null) (out : KeyParamsOut)
    (h : authorizationListParseAsn1Null data size = (size', .ok ())) :
    Covers data size size' out (authorizationListSerializeTagNull authTag data out) := by
  rw [authorizationListParseAsn1Null] at h
  rw [authorizationListSerializeTagNull]
  split_ifs at h with hnull
  · cases h
    subst hnull
    refine ⟨1, 4 + 4, rfl, by decide, ?_⟩
    rw [if_pos rfl]
    exact fits_single (isParam_null hshape) rfl
  · cases h

theorem recordTag_keyParams (authTag : Tag) (data : List Byte) (out : KeyParamsOut) :
    (recordTag authTag data out).keyParams = out.keyParams := by
  rw [recordTag]
  split_ifs <;> rfl

theorem covers_congr {out : KeyParamsOut} {result result' : KeyParamsOut × Except KmError Unit}
    (h : Covers data size size' out result) (hwritten : result'.1.keyParams = result.1.keyParams)
    (hstat : result'.2 = .ok () → result.2 = .ok ()) : Covers data size size' out result' := by
  obtain ⟨num, len, hsize, hlen, params, hparams, hser, hle, hok⟩ := h
  exact ⟨num, len, hsize, hlen, params, hwritten.trans hparams, hser, hle, fun h => hok (hstat h)⟩

theorem visit_covers (out : KeyParamsOut) (h : authorizationListParseAsn1 authTag data size = (size', .ok ())) :
    Covers data size size' out (authorizationListSerializeTag authTag data out) := by
  rw [authorizationListParseAsn1] at h
  rw [authorizationListSerializeTag]
  cases hshape : asn1Type authTag with
  | none =>
    rw [hshape] at h
    cases h
  | some shape =>
    rw [hshape] at h
    cases shape with
    | setOfInteger => exact covers_setOfInteger hshape out h
    | integerU32 =>
      have hcovers : Covers data size size' out (authorizationListSerializeTagIntegerU32 authTag data out) :=
        covers_integer (by decide) 4 _ (fun _ => length_appendU32 _)
          (fun content => isParam_u32 hshape (getSizedU32 content)) out h
      dsimp only
      rcases hres : authorizationListSerializeTagIntegerU32 authTag data out with ⟨out', e | _⟩
      · rwa [hres] at hcovers
      · rw [hres] at hcovers
        exact covers_congr hcovers (recordTag_keyParams authTag data out') (fun _ => rfl)
    | integerU64 =>
      exact covers_integer (by decide) 8 _ (fun _ => length_appendU64 _)
        (fun content => isParam_u64 hshape (getSizedU64 content)) out h
    | null => exact covers_null hshape out h
    | octetString =>
      dsimp only at h
      rw [parseAsn1OctetString_fails] at h
      cases h
    | rootOfTrust =>
      cases h
      exact ⟨0, 0, by simp [ListSize.add], Nat.zero_le _, fits_nil out⟩

end

theorem walk_covers {table : List Tag} {data : List Byte} {size size' : ListSize}
    (h : walkAuthlist authorizationListParseAsn1 table data size = (size', .ok ())) (out : KeyParamsOut) :
    ∃ num len, size' = size.add num len ∧ len ≤ 3 * data.length ∧
      Fits num len out (walkAuthlist authorizationListSerializeTag table data out) := by
  refine walkAuthlist_induction
    (motive := fun table data size size' => ∀ out, ∃ num len, size' = size.add num len ∧ len ≤ 3 * data.length ∧
      Fits num len out (walkAuthlist authorizationListSerializeTag table data out)) ?_ ?_ h out
  · intro table size out
    refine ⟨0, 0, by simp [ListSize.add], Nat.zero_le _, ?_⟩
    rw [walkAuthlist_nil]
    exact fits_nil out
  · intro table data size size' tag tagLen pos authTag rest mid hread hfind hvisit ih out
    obtain ⟨hhdr, hcontent⟩ := derParserReadTagWithLength_lt hread
    obtain ⟨num, len, rfl, hlen, params, hwritten, hparams, hle, hok⟩ := visit_covers out hvisit
    rw [walkAuthlist_visit hread hfind]
    cases hres : authorizationListSerializeTag authTag (pos.take tagLen) out with
    | mk out' status =>
      rw [hres] at hwritten hok
      obtain ⟨num', len', rfl, hlen', params', hwritten', hparams', hle', hok'⟩ := ih out'
      have hadd : (size.add num len).add num' len' = size.add (num + num') (len + len') := by
        simp only [ListSize.add, BitVec.ofNat_add, BitVec.add_assoc, Nat.add_assoc]
      have hlength : len + len' ≤ 3 * data.length := by
        rw [List.length_take] at hlen
        rw [List.length_drop] at hlen'
        omega
      refine ⟨num + num', len + len', hadd, hlength, ?_⟩
      cases status with
      | error e =>
        -- the writing pass stops here, the sizing pass has counted on
        exact ⟨params, hwritten, hparams, by omega, fun h => by cases h⟩
      | ok =>
        obtain ⟨hnum, hexact⟩ := hok rfl
        refine ⟨params ++ params', ?_, List.forall_mem_append.mpr ⟨hparams, hparams'⟩, ?_, ?_⟩
        · rw [encodeParams_append, ← List.append_assoc, ← hwritten]
          exact hwritten'
        · rw [encodeParams_append, length_append]
          omega
        · intro hstat
          obtain ⟨hnum', hexact'⟩ := hok' hstat
          rw [encodeParams_append, length_append, length_append]
          omega

theorem derParserReadSeqLength_le {bytes pos : List Byte} {len : Nat}
    (h : derParserReadSeqLength bytes = some (len, pos)) : len ≤ 65535 := by
  cases bytes with
  | nil => cases h
  | cons val bytes =>
    obtain ⟨-, hlen⟩ := Option.ite_none_right_eq_some.mp h
    exact (derParserGetLength_bounds hlen).2.2.2

theorem length_le_encodeParams (params : List KeyParam) : params.length ≤ (encodeParams params).length := by
  induction params with
  | nil => exact Nat.zero_le _
  | cons param params ih =>
    have hparam : 4 ≤ (encodeParam param).length := by
      rw [encodeParam, length_append, length_appendU32]
      exact Nat.le_add_right _ _
    rw [encodeParams, flatMap_cons, length_append, length_cons]
    rw [encodeParams] at ih
    omega

theorem makeAuthorizationList_ok {input data : List Byte} {keyType hwAuthType : U32} {size : ListSize}
    (hseq : derParserReadSeqLength input = some (data.length, data))
    (hsize : authorizationListParseAuthlist data = (size, .ok ()))
    (hout : authorizationListSerializeAuthlist data ⟨appendU32 size.paramsNum, keyType, hwAuthType⟩ = (out, .ok ())) :
    sspKeyparserMakeAuthorizationList keyType hwAuthType input = .ok ⟨size.requiredLen, out⟩ := by
  rw [sspKeyparserMakeAuthorizationList, hseq]
  dsimp only
  rw [if_pos rfl, hsize]
  dsimp only
  rw [hout]

/-- A successful sizing pass bounds the writing pass; if that succeeds too, the buffer is filled
exactly and decodes to the counted parameters. -/
theorem sizing_writing_agree (data : List Byte) (size : ListSize)
    (hsize : authorizationListParseAuthlist data = (size, .ok ())) :
    (∀ out, ∃ written, (authorizationListSerializeAuthlist data out).1.keyParams = out.keyParams ++ written ∧
      written.length + 4 ≤ size.requiredLen ∧
      ((authorizationListSerializeAuthlist data out).2 = .ok () → written.length + 4 = size.requiredLen)) ∧
    ∀ input keyType hwAuthType, derParserReadSeqLength input = some (data.length, data) →
      (authorizationListSerializeAuthlist data ⟨appendU32 size.paramsNum, keyType, hwAuthType⟩).2 = .ok () →
      size.paramsNum.toNat ≤ 1000 →
      ∃ made params, sspKeyparserMakeAuthorizationList keyType hwAuthType input = .ok made ∧
        made.keyParamsLen = size.requiredLen ∧ made.out.keyParams.length = size.requiredLen ∧
        sspSerializerDeserializeParams made.out.keyParams = .ok (params, []) ∧
        params.length = size.paramsNum.toNat := by
  constructor
  · intro out
    obtain ⟨num, len, rfl, -, params, hwritten, -, hle, hok⟩ := walk_covers hsize out
    refine ⟨encodeParams params, hwritten, ?_, ?_⟩
    · change _ ≤ 4 + len
      omega
    · intro hstat
      change _ = 4 + len
      rw [(hok hstat).2, Nat.add_comm]
  · intro input keyType hwAuthType hseq hstat hcnt
    obtain ⟨num, len, hadd, hlen, params, hwritten, hparams, -, hok⟩ :=
      walk_covers hsize ⟨appendU32 size.paramsNum, keyType, hwAuthType⟩
    obtain ⟨hnum, hexact⟩ := hok hstat
    have hdata := derParserReadSeqLength_le hseq
    have hshort := length_le_encodeParams params
    have hparamsNum : size.paramsNum = BitVec.ofNat 32 params.length := by
      rw [hadd, hnum]
      exact BitVec.zero_add _
    have htoNat : size.paramsNum.toNat = params.length := by
      rw [hparamsNum, BitVec.toNat_ofNat, Nat.mod_eq_of_lt (by omega)]
    have hrequired : size.requiredLen = 4 + (encodeParams params).length := by
      rw [hadd, hexact]
      rfl
    have hdecode := deserialize_encodeParams params [] hparams (by omega) (htoNat ▸ hcnt)
    rw [append_nil, ← hparamsNum] at hdecode
    rcases hres : authorizationListSerializeAuthlist data ⟨appendU32 size.paramsNum, keyType, hwAuthType⟩
      with ⟨out, status⟩
    change (authorizationListSerializeAuthlist data _).1.keyParams = _ at hwritten
    rw [hres] at hstat hwritten
    cases hstat
    refine ⟨_, params, makeAuthorizationList_ok hseq hsize hres, rfl, ?_, ?_, htoNat.symm⟩
    · rw [hwritten, length_append, length_appendU32, hrequired]
    · rw [hwritten]
      exact hdecode

/-- One purpose: `[1] { SET { INTEGER 2 } }`. -/
def purposeList : List Byte := [0xA1#8, 5#8, 0x31#8, 3#8, 0x02#8, 1#8, 2#8]

theorem sizing_writing_agree_purpose : (∀ out, ∃ written,
      (authorizationListSerializeAuthlist purposeList out).1.keyParams = out.keyParams ++ written ∧
      written.length + 4 ≤ 12 ∧
      ((authorizationListSerializeAuthlist purposeList out).2 = .ok () → written.length + 4 = 12)) ∧
    ∃ made params, sspKeyparserMakeAuthorizationList 0 0 (0x30#8 :: 7#8 :: purposeList) = .ok made ∧
      made.keyParamsLen = 12 ∧ made.out.keyParams.length = 12 ∧
      sspSerializerDeserializeParams made.out.keyParams = .ok (params, []) ∧ params.length = 1 := by
  have hagree := sizing_writing_agree purposeList ⟨1#32, 12⟩ (by decide +kernel)
  exact ⟨hagree.1, hagree.2 (0x30#8 :: 7#8 :: purposeList) 0 0 (by decide) (by decide +kernel) (by decide)⟩

end ExynosHal.Strongbox.AuthorizationListAgree
