import ExynosHal.Library.Der
import ExynosHal.Strongbox.AuthorizationListAgree

/-! # Which AuthorizationLists are accepted

`derAuthorizationList` encodes parameters as the SEQUENCE of the source comment: the fields of the table in
order, each under its explicit tag, the values of a repeatable enumeration together in one SET.
-/

namespace ExynosHal.Strongbox.AuthorizationListComplete
open Library.BitString Library.LittleEndian Library.Der Params Serialization SerializationRoundTrip
open AuthorizationList AuthorizationListAgree
open List (append_assoc append_nil cons_append flatMap_cons forall_mem_cons forall_mem_nil length_append length_cons
  mem_cons mem_cons_self mem_singleton nil_append nodup_append singleton_append)
open BitVec (ofNat toNat_ofNat)
open KeyParam (ofType exists_ofType value_ofType)

def derValue : (type : Option TagType) → Value type → List Byte
  | some .enum, (val : U32) => derInteger val.toNat
  | some .enumRep, (val : U32) => derInteger val.toNat
  | some .uint, (val : U32) => derInteger val.toNat
  | some .ulong, (val : U64) => derInteger val.toNat
  | some .date, (val : U64) => derInteger val.toNat
  | some .ulongRep, (val : U64) => derInteger val.toNat
  | some .bool, _ => [0x05#8, 0#8]
  | some .bytes, (data : List Byte) => 0x04#8 :: derLength data.length ++ data
  -- no tag of the table has one of the other types
  | _, _ => []

def derParam (param : KeyParam) : List Byte := derValue _ param.value

def field (params : List KeyParam) (tag : Tag) : List KeyParam := params.filter fun param => param.tag = tag

def fieldContent (tag : Tag) (params : List KeyParam) : List Byte :=
  let values := params.flatMap derParam
  if keymasterTagGetType tag = some .enumRep then 0x31#8 :: derLength values.length ++ values else values

def derField (params : List KeyParam) (tag : Tag) : List Byte :=
  if field params tag = [] then [] else derExplicit (getTagId tag) (fieldContent tag (field params tag))

def derFields (params : List KeyParam) (table : List Tag) : List Byte := table.flatMap (derField params)

def derAuthorizationList (params : List KeyParam) : List Byte :=
  0x30#8 :: derLength (derFields params km4AttestAuthlist).length ++ derFields params km4AttestAuthlist

def inRangeValue : (type : Option TagType) → Value type → Prop
  | some .enum, (val : U32) => val.toNat < 2 ^ 31
  | some .enumRep, (val : U32) => val.toNat < 128
  | some .uint, (val : U32) => val.toNat < 2 ^ 31
  | some .ulong, (val : U64) => val.toNat < 2 ^ 63
  | some .date, (val : U64) => val.toNat < 2 ^ 63
  | some .ulongRep, (val : U64) => val.toNat < 2 ^ 63
  | some .bool, (val : Bool) => val
  | some .bytes, (data : List Byte) => data.length < 128
  | _, _ => False

def InRange (param : KeyParam) : Prop := inRangeValue _ param.value

def tableIndex (tag : Tag) : Nat := km4AttestAuthlist.idxOf tag

structure Listed (params : List KeyParam) : Prop where
  tags : ∀ param ∈ params, param.tag ∈ km4AttestAuthlist ∧ param.tag ≠ tagRootOfTrust
  order : params.Pairwise fun a b =>
    tableIndex a.tag < tableIndex b.tag ∨ a.tag = b.tag ∧ keymasterTagGetType a.tag = some .enumRep
  values : ∀ param ∈ params, InRange param

theorem getLength_derLength {len : Nat} (hlen : len < 65536) (rest : List Byte) (hrest : len ≤ rest.length) :
    derParserGetLength (derLength len ++ rest) = some (len, rest) := by
  have hbyte : ∀ n < 256, (ofNat 8 n).toNat = n := fun n hn => Nat.mod_eq_of_lt hn
  rcases Nat.lt_or_ge len 128 with hshort | hlong
  · rw [derLength_short hshort, singleton_append, derParserGetLength.eq_def]
    dsimp only
    rw [hbyte len (by omega), if_pos hshort, if_pos hrest]
  · rcases Nat.lt_or_ge len 256 with hone | htwo
    · rw [derLength_one hlong hone, cons_append, singleton_append, derParserGetLength.eq_def]
      dsimp only
      rw [if_neg (by decide), if_pos rfl, hbyte len hone, if_pos hrest]
    · have hhigh : len / 256 < 256 := by omega
      have hval : 256 * (len / 256) + len % 256 = len := Nat.div_add_mod len 256
      have hlow : (ofNat 8 len).toNat = len % 256 := rfl
      rw [derLength_two htwo hlen, cons_append, cons_append, singleton_append, derParserGetLength.eq_def]
      dsimp only
      rw [if_neg (by decide), if_neg (by decide), if_pos rfl, hbyte _ hhigh, hlow, hval, if_pos hrest]

theorem readTag_derExplicitTag {number : Nat} (hnum : number < 16384) (rest : List Byte) :
    derParserReadTag (derExplicitTag number ++ rest) = some (number, rest) := by
  have hbyte : ∀ n < 256, (ofNat 8 n).toNat = n := fun n hn => Nat.mod_eq_of_lt hn
  rw [derExplicitTag]
  split_ifs with hlow hone
  · rw [singleton_append, derParserReadTag.eq_def]
    dsimp only
    rw [hbyte _ (by omega), if_neg (by omega), if_neg (by omega), Nat.add_sub_cancel_left]
  · change derParserReadTag (0xBF#8 :: ofNat 8 number :: rest) = _
    rw [derParserReadTag.eq_def]
    dsimp only
    rw [if_neg (by decide), if_pos (by decide), if_neg (by decide), hbyte _ (by omega), if_pos hone,
      if_neg (by omega)]
  · have hval : 128 * (128 + number / 128 - 128) + number % 128 = number := by omega
    change derParserReadTag (0xBF#8 :: ofNat 8 (128 + number / 128) :: ofNat 8 (number % 128) :: rest) = _
    rw [derParserReadTag.eq_def]
    dsimp only
    rw [if_neg (by decide), if_pos (by decide), if_neg (by decide), hbyte _ (by omega), if_neg (by omega),
      hbyte _ (by omega), hval]

theorem readTagWithLength_derExplicit {number : Nat} (hnum : number < 16384) (content rest : List Byte)
    (hcontent : content.length < 65536) :
    derParserReadTagWithLength (derExplicit number content ++ rest) =
      some (number, content.length, content ++ rest) := by
  rw [derExplicit, append_assoc, append_assoc, derParserReadTagWithLength, readTag_derExplicitTag hnum]
  change (derParserGetLength (derLength content.length ++ (content ++ rest)) >>= _) = _
  rw [getLength_derLength hcontent _ (by simp)]
  rfl

def visitFields {σ : Type} (visit : Visit σ) (params : List KeyParam) : List Tag → σ → σ × Except KmError Unit
  | [], s => (s, .ok ())
  | tag :: table, s =>
    if field params tag = [] then visitFields visit params table s
    else match visit tag (fieldContent tag (field params tag)) s with
      | (s, .error e) => (s, .error e)
      | (s, .ok _) => visitFields visit params table s

theorem dropWhile_getTagId (before rest : List Tag) (tag : Tag)
    (hnodup : ((before ++ tag :: rest).map getTagId).Nodup) :
    (before ++ tag :: rest).dropWhile (fun entry => getTagId entry ≠ getTagId tag) = tag :: rest := by
  have hbefore : ∀ entry ∈ before, getTagId entry ≠ getTagId tag := by
    intro entry hentry heq
    rw [List.map_append, nodup_append] at hnodup
    exact hnodup.2.2 _ (List.mem_map_of_mem hentry) _ (List.mem_map_of_mem mem_cons_self) heq
  rw [List.dropWhile_append_of_pos (fun entry hentry => decide_eq_true (hbefore entry hentry)),
    List.dropWhile_cons_of_neg (by simp)]

theorem walkAuthlist_derFields {σ : Type} (visit : Visit σ) (params : List KeyParam) (before table : List Tag) (s : σ)
    (hnodup : ((before ++ table).map getTagId).Nodup) (hid : ∀ tag ∈ table, getTagId tag < 16384)
    (hlen : (derFields params table).length < 65536) :
    walkAuthlist visit (before ++ table) (derFields params table) s = visitFields visit params table s := by
  induction table generalizing before s with
  | nil => exact walkAuthlist_nil _ s
  | cons tag table ih =>
    obtain ⟨htag, htable⟩ := forall_mem_cons.mp hid
    rw [derFields, flatMap_cons, derField] at hlen ⊢
    rw [visitFields]
    split_ifs at hlen ⊢ with habsent
    · -- the index passes over an absent field when the next present one is looked up
      rw [List.append_cons] at hnodup ⊢
      exact ih (before ++ [tag]) s hnodup htable hlen
    · rw [length_append, derExplicit, length_append] at hlen
      have hread := readTagWithLength_derExplicit htag (fieldContent tag (field params tag))
        (derFields params table) (by omega)
      have hrest : ((tag :: table).map getTagId).Nodup := by
        rw [List.map_append] at hnodup
        exact (nodup_append.mp hnodup).2.1
      change walkAuthlist visit _ (derExplicit _ _ ++ derFields params table) s = _
      rw [walkAuthlist_visit hread (dropWhile_getTagId before table tag hnodup), List.take_left, List.drop_left]
      rcases visit tag (fieldContent tag (field params tag)) s with ⟨s', e | _⟩
      · rfl
      · exact ih [tag] s' hrest htable (by rw [derFields]; omega)

theorem field_eq_nil {params : List KeyParam} {tag : Tag} (h : ∀ param ∈ params, param.tag ≠ tag) :
    field params tag = [] := by
  rw [field, List.filter_eq_nil_iff]
  intro param hparam
  simpa using h param hparam

theorem flatMap_field (table : List Tag) (hnodup : table.Nodup) (params : List KeyParam)
    (htags : ∀ param ∈ params, param.tag ∈ table)
    (horder : params.Pairwise fun a b => table.idxOf a.tag ≤ table.idxOf b.tag) :
    table.flatMap (field params) = params := by
  induction params with
  | nil =>
    rw [List.flatMap_eq_nil_iff]
    exact fun tag _ => rfl
  | cons param params ih =>
    obtain ⟨htag, htags⟩ := forall_mem_cons.mp htags
    obtain ⟨hfst, horder⟩ := List.pairwise_cons.mp horder
    have ih := ih htags horder
    obtain ⟨before, behind, rfl⟩ := List.append_of_mem htag
    obtain ⟨-, hnodupRest, hdisjoint⟩ := nodup_append.mp hnodup
    have hnotBefore : param.tag ∉ before := fun h => hdisjoint _ h _ mem_cons_self rfl
    have hidx : (before ++ param.tag :: behind).idxOf param.tag = before.length := by
      rw [List.idxOf_append_of_notMem hnotBefore, List.idxOf_cons_self, Nat.add_zero]
    -- a field before the first parameter's is empty
    have hempty : ∀ tag ∈ before, field params tag = [] ∧ field (param :: params) tag = [] := by
      intro tag hmem
      have hlt : (before ++ param.tag :: behind).idxOf tag < before.length := by
        rw [List.idxOf_append_of_mem hmem]
        exact List.idxOf_lt_length_of_mem hmem
      constructor
      · refine field_eq_nil ?_
        rintro other hother rfl
        have := hfst other hother
        omega
      · refine field_eq_nil ?_
        intro other hother heq
        rcases mem_cons.mp hother with rfl | hother
        · exact hnotBefore (heq ▸ hmem)
        · have := hfst other hother
          rw [heq] at this
          omega
    have hbehind : behind.flatMap (field (param :: params)) = behind.flatMap (field params) := by
      refine List.flatMap_congr ?_
      intro tag htag
      refine List.filter_cons_of_neg ?_
      have hne : param.tag ≠ tag := fun heq => (List.nodup_cons.mp hnodupRest).1 (heq ▸ htag)
      simpa using hne
    have hself : field (param :: params) param.tag = param :: field params param.tag :=
      List.filter_cons_of_pos (by simp)
    rw [List.flatMap_append, flatMap_cons] at ih ⊢
    rw [List.flatMap_eq_nil_iff.mpr fun tag htag => (hempty tag htag).1, nil_append] at ih
    rw [List.flatMap_eq_nil_iff.mpr fun tag htag => (hempty tag htag).2, nil_append, hself, hbehind, cons_append, ih]

theorem getSized_toBigEndian {width : Nat} (hwidth : 8 ≤ width) (bytes value : Nat) (hval : value < 256 ^ bytes) :
    getSized width (toBigEndian bytes value) = ofNat width value := by
  induction bytes generalizing value with
  | zero =>
    obtain rfl : value = 0 := by simpa using hval
    rfl
  | succ bytes ih =>
    have hdiv : value / 256 < 256 ^ bytes := by
      rw [Nat.pow_succ] at hval
      exact Nat.div_lt_of_lt_mul (by omega)
    have hstep : getSized width (toBigEndian bytes (value / 256) ++ [ofNat 8 value]) =
        (getSized width (toBigEndian bytes (value / 256)) <<< 8) + (ofNat 8 value).setWidth width :=
      List.foldl_append
    rw [toBigEndian_succ, hstep, ih _ hdiv]
    apply BitVec.eq_of_toNat_eq
    have hpow : 2 ^ 8 ≤ 2 ^ width := Nat.pow_le_pow_right (by decide) hwidth
    have hlow : value % 2 ^ 8 % 2 ^ width = value % 256 := Nat.mod_eq_of_lt (by omega)
    have hshift : value / 256 % 2 ^ width * 2 ^ 8 % 2 ^ width = value / 256 * 256 % 2 ^ width := Nat.mod_mul_mod _ _ _
    rw [BitVec.toNat_add, BitVec.toNat_shiftLeft, Nat.shiftLeft_eq, BitVec.toNat_setWidth, toNat_ofNat,
      toNat_ofNat, toNat_ofNat, hlow, hshift, Nat.mod_add_mod, Nat.div_add_mod']

variable {value : Nat}

theorem shortContent_derInteger (h : value < 2 ^ 63) :
    shortContent 0x02#8 (derInteger value) = some (toBigEndian (integerWidth value) value) := by
  have hwidth : integerWidth value ≤ 7 + 1 := integerWidth_le h
  have hbyte : (ofNat 8 (integerWidth value)).toNat = integerWidth value := Nat.mod_eq_of_lt (by omega)
  rw [derInteger, derLength_short (by omega)]
  change shortContent 0x02#8 (0x02#8 :: ofNat 8 (integerWidth value) :: toBigEndian _ value) = _
  rw [shortContent, if_pos ⟨rfl, by rw [hbyte, length_toBigEndian]⟩]

section
variable {tag : Tag} {params : List KeyParam}

structure IsField (tag : Tag) (params : List KeyParam) : Prop where
  tags : ∀ param ∈ params, param.tag = tag
  values : ∀ param ∈ params, InRange param
  single : keymasterTagGetType tag ≠ some .enumRep → params.length = 1

def Taken (tag : Tag) (params : List KeyParam) : Prop := (fieldContent tag params).length ≤ 128 ∧
  (∀ size, ∃ len, authorizationListParseAsn1 tag (fieldContent tag params) size =
    (size.add params.length len, .ok ())) ∧
  ∀ out, ∃ out', authorizationListSerializeTag tag (fieldContent tag params) out = (out', .ok ()) ∧
    out'.keyParams = out.keyParams ++ encodeParams params

theorem fieldContent_single {param : KeyParam} (h : keymasterTagGetType tag ≠ some .enumRep) :
    fieldContent tag [param] = derParam param := by
  rw [fieldContent, if_neg h, List.flatMap_singleton]

theorem isField_single (h : IsField tag params) {type : TagType} (htype : keymasterTagGetType tag = some type)
    (hne : type ≠ .enumRep) :
    ∃ value, params = [ofType tag type htype value] ∧ inRangeValue (some type) value ∧
      fieldContent tag params = derValue (some type) value := by
  have hset : keymasterTagGetType tag ≠ some .enumRep := by
    rw [htype]
    exact fun h => hne (Option.some.inj h)
  obtain ⟨param, rfl⟩ := List.length_eq_one_iff.mp (h.single hset)
  obtain ⟨value, rfl⟩ := exists_ofType (h.tags param mem_cons_self) htype
  have hval : InRange (ofType tag type htype value) := h.values _ mem_cons_self
  rw [InRange, value_ofType inRangeValue] at hval
  refine ⟨value, rfl, hval, ?_⟩
  rw [fieldContent_single hset, derParam, value_ofType derValue]

theorem length_derInteger_le (hval : value < 2 ^ 63) : (derInteger value).length ≤ 128 := by
  have hwidth : integerWidth value ≤ 7 + 1 := integerWidth_le hval
  rw [derInteger, derLength_short (by omega), length_append, length_toBigEndian]
  change 2 + _ ≤ 128
  omega

theorem parseAsn1Integer_derInteger (valueLen : Nat) (hval : value < 2 ^ 63) (size : ListSize) :
    parseAsn1Integer valueLen (derInteger value) size = (size.add 1 (4 + valueLen), .ok ()) := by
  rw [parseAsn1Integer, shortContent_derInteger hval]

theorem serializeTagInteger_derInteger {maxLen value : Nat} (appendValue : List Byte → List Byte) (tag : Tag)
    (hval : value < 2 ^ 63) (hwidth : integerWidth value ≤ maxLen) (out : KeyParamsOut) :
    serializeTagInteger maxLen appendValue tag (derInteger value) out =
      (out.append (appendU32 tag ++ appendValue (toBigEndian (integerWidth value) value)), .ok ()) := by
  rw [serializeTagInteger, shortContent_derInteger hval]
  dsimp only
  rw [if_pos (by rwa [length_toBigEndian])]

theorem getSized_integer {width : Nat} (hwidth : 8 ≤ width) (value : BitVec width) :
    getSized width (toBigEndian (integerWidth value.toNat) value.toNat) = value := by
  rw [getSized_toBigEndian hwidth _ _ (lt_integerWidth _), BitVec.ofNat_toNat, BitVec.setWidth_eq]

theorem encodeParams_single {type : TagType} (htype : keymasterTagGetType tag = some type) (value : Value (some type)) :
    encodeParams [ofType tag type htype value] = appendU32 tag ++ encodeValue (some type) value := by
  rw [encodeParams, List.flatMap_singleton, encodeParam_ofType]

theorem taken_u32 (hshape : asn1Type tag = some .integerU32) {value : U32} (hval : value.toNat < 2 ^ 31)
    (hcontent : fieldContent tag params = derInteger value.toNat) (hlen : params.length = 1)
    (hencode : encodeParams params = appendU32 tag ++ appendU32 value) : Taken tag params := by
  have hsmall : value.toNat < 2 ^ 63 := by omega
  refine ⟨?_, ?_, ?_⟩
  · rw [hcontent]
    exact length_derInteger_le hsmall
  · intro size
    refine ⟨4 + 4, ?_⟩
    rw [authorizationListParseAsn1, hshape, hcontent, hlen]
    exact parseAsn1Integer_derInteger 4 hsmall size
  · intro out
    have hwidth : integerWidth value.toNat ≤ 4 := integerWidth_le hval
    have hread : getSizedU32 (toBigEndian (integerWidth value.toNat) value.toNat) = value :=
      getSized_integer (by decide) value
    have hwritten : authorizationListSerializeTagIntegerU32 tag (derInteger value.toNat) out =
        (out.append (encodeParams params), .ok ()) := by
      rw [authorizationListSerializeTagIntegerU32, serializeTagInteger_derInteger _ tag hsmall hwidth, hread, hencode]
    refine ⟨recordTag tag (derInteger value.toNat) (out.append (encodeParams params)), ?_, recordTag_keyParams _ _ _⟩
    rw [authorizationListSerializeTag, hshape, hcontent]
    rw [hwritten]

theorem taken_u64 (hshape : asn1Type tag = some .integerU64) {value : U64} (hval : value.toNat < 2 ^ 63)
    (hcontent : fieldContent tag params = derInteger value.toNat) (hlen : params.length = 1)
    (hencode : encodeParams params = appendU32 tag ++ appendU64 value) : Taken tag params := by
  refine ⟨?_, ?_, ?_⟩
  · rw [hcontent]
    exact length_derInteger_le hval
  · intro size
    refine ⟨4 + 8, ?_⟩
    rw [authorizationListParseAsn1, hshape, hcontent, hlen]
    exact parseAsn1Integer_derInteger 8 hval size
  · intro out
    have hwidth : integerWidth value.toNat ≤ 8 := integerWidth_le hval
    have hread : getSizedU64 (toBigEndian (integerWidth value.toNat) value.toNat) = value :=
      getSized_integer (by decide) value
    refine ⟨out.append (encodeParams params), ?_, rfl⟩
    rw [authorizationListSerializeTag, hshape, hcontent]
    rw [authorizationListSerializeTagIntegerU64, serializeTagInteger_derInteger _ tag hval hwidth, hread, hencode]

theorem taken_null (hshape : asn1Type tag = some .null) (hcontent : fieldContent tag params = [0x05#8, 0#8])
    (hlen : params.length = 1) (hencode : encodeParams params = appendU32 tag ++ appendU32 1#32) :
    Taken tag params := by
  refine ⟨?_, ?_, ?_⟩
  · rw [hcontent]
    decide
  · intro size
    refine ⟨4 + 4, ?_⟩
    rw [authorizationListParseAsn1, hshape, hcontent, hlen]
    rfl
  · intro out
    refine ⟨out.append (encodeParams params), ?_, rfl⟩
    rw [authorizationListSerializeTag, hshape, hcontent, hencode]
    rfl

section
variable (htype : keymasterTagGetType tag = some .enumRep)
include htype

theorem derParam_set {param : KeyParam} (htag : param.tag = tag) (hvalue : InRange param) :
    ∃ val : Byte, derParam param = [0x02#8, 1#8, val] ∧
      encodeParam param = appendU32 tag ++ appendU32 (val.setWidth 32) := by
  obtain ⟨value, rfl⟩ := exists_ofType htag htype
  rw [InRange, value_ofType inRangeValue] at hvalue
  change BitVec.toNat value < 128 at hvalue
  refine ⟨ofNat 8 (BitVec.toNat value), ?_, ?_⟩
  · rw [derParam, value_ofType derValue]
    exact derInteger_small hvalue
  · have hval : (ofNat 8 (BitVec.toNat value)).setWidth 32 = value := by
      apply BitVec.eq_of_toNat_eq
      rw [BitVec.toNat_setWidth, toNat_ofNat]
      omega
    rw [encodeParam_ofType, hval]
    rfl

theorem length_flatMap_derParam
    (htags : ∀ param ∈ params, param.tag = tag) (hvals : ∀ param ∈ params, InRange param) :
    (params.flatMap derParam).length = 3 * params.length := by
  induction params with
  | nil => rfl
  | cons param params ih =>
    obtain ⟨htag, htags⟩ := forall_mem_cons.mp htags
    obtain ⟨hval, hvals⟩ := forall_mem_cons.mp hvals
    obtain ⟨val, hder, -⟩ := derParam_set htype htag hval
    rw [flatMap_cons, length_append, ih htags hvals, hder]
    simp only [length_cons, List.length_nil]
    omega

theorem serializeSetLoop_flatMap
    (htags : ∀ param ∈ params, param.tag = tag) (hvals : ∀ param ∈ params, InRange param) (out : KeyParamsOut) :
    serializeSetLoop tag (params.flatMap derParam) out = (out.append (encodeParams params), .ok ()) := by
  induction params generalizing out with
  | nil =>
    change (out, _) = (out.append [], _)
    rw [KeyParamsOut.append, append_nil]
  | cons param params ih =>
    obtain ⟨htag, htags⟩ := forall_mem_cons.mp htags
    obtain ⟨hval, hvals⟩ := forall_mem_cons.mp hvals
    obtain ⟨val, hder, hencode⟩ := derParam_set htype htag hval
    rw [flatMap_cons, hder]
    change serializeSetLoop tag (0x02#8 :: 1#8 :: val :: params.flatMap derParam) out = _
    rw [serializeSetLoop, if_pos rfl, if_pos rfl, ih htags hvals, ← hencode, KeyParamsOut.append,
      KeyParamsOut.append, append_assoc]
    rfl

end

theorem taken_set (hshape : asn1Type tag = some .setOfInteger) (htype : keymasterTagGetType tag = some .enumRep)
    (h : IsField tag params) (hcnt : params.length ≤ 42) : Taken tag params := by
  have hlen := length_flatMap_derParam htype h.tags h.values
  have hbyte : (ofNat 8 (params.flatMap derParam).length).toNat = (params.flatMap derParam).length :=
    Nat.mod_eq_of_lt (by omega)
  have hcontent : fieldContent tag params =
      0x31#8 :: ofNat 8 (params.flatMap derParam).length :: params.flatMap derParam := by
    rw [fieldContent, if_pos htype, derLength_short (by omega)]
    rfl
  have hshort : shortContent 0x31#8 (fieldContent tag params) = some (params.flatMap derParam) := by
    rw [hcontent, shortContent, if_pos ⟨rfl, hbyte⟩]
  have hthree : (fieldContent tag params).length = 3 * params.length + 2 := by
    rw [hcontent, length_cons, length_cons, hlen]
  refine ⟨by omega, ?_, ?_⟩
  · intro size
    refine ⟨(4 + 4) * params.length, ?_⟩
    have hnum : (3 * params.length + 2 - 2) / 3 = params.length := by omega
    rw [authorizationListParseAsn1, hshape]
    dsimp only [authorizationListParseAsn1SetOfInteger]
    rw [hshort]
    rw [hthree, if_pos (by omega), hnum]
  · intro out
    refine ⟨out.append (encodeParams params), ?_, rfl⟩
    rw [authorizationListSerializeTag, hshape]
    dsimp only [authorizationListSerializeTagSetOfInteger]
    rw [hshort]
    dsimp only
    rw [hlen, if_pos (by omega), serializeSetLoop_flatMap htype h.tags h.values]

theorem long_set_fails (hshape : asn1Type tag = some .setOfInteger) (htype : keymasterTagGetType tag = some .enumRep)
    (h : IsField tag params) (hcnt : 42 < params.length) (hsmall : (fieldContent tag params).length < 65536)
    (size : ListSize) : (authorizationListParseAsn1 tag (fieldContent tag params) size).2 ≠ .ok () := by
  have hlen := length_flatMap_derParam htype h.tags h.values
  have hcontent : fieldContent tag params = 0x31#8 :: ofNat 8 (128 + byteWidth (3 * params.length)) ::
        (toBigEndian (byteWidth (3 * params.length)) (3 * params.length) ++ params.flatMap derParam) := by
    rw [fieldContent, if_pos htype, hlen, derLength_long (by omega)]
    rfl
  rw [hcontent, length_cons, length_cons, length_append, length_toBigEndian, hlen] at hsmall
  have hwidth : byteWidth (3 * params.length) ≤ 2 := (lt_byteWidth_iff (by omega) 2).mpr (by omega)
  have hshort : shortContent 0x31#8 (fieldContent tag params) = none := by
    rw [hcontent, shortContent, if_neg]
    rintro ⟨-, hbyte⟩
    rw [length_append, length_toBigEndian, hlen, toNat_ofNat] at hbyte
    omega
  rw [authorizationListParseAsn1, hshape]
  dsimp only [authorizationListParseAsn1SetOfInteger]
  rw [hshort]
  rintro ⟨⟩

theorem asn1Type_of_mem (hmem : tag ∈ km4AttestAuthlist) (hroot : tag ≠ tagRootOfTrust) :
    ∃ shape, asn1Type tag = some shape ∧ shape ≠ .rootOfTrust := by
  have hall : km4AttestAuthlist.all (fun entry => entry = tagRootOfTrust ||
      (asn1Type entry).any fun shape => shape ≠ .rootOfTrust) = true := by decide
  have hentry := List.all_eq_true.mp hall tag hmem
  rw [Bool.or_eq_true, decide_eq_true_eq] at hentry
  obtain ⟨shape, hshape, hne⟩ := (Option.any_eq_true _ _).mp (hentry.resolve_left hroot)
  exact ⟨shape, hshape, of_decide_eq_true hne⟩

def Acceptable (tag : Tag) (params : List KeyParam) : Prop :=
  keymasterTagGetType tag ≠ some .bytes ∧ (keymasterTagGetType tag = some .enumRep → params.length ≤ 42)

theorem taken_of_acceptable (hmem : tag ∈ km4AttestAuthlist) (hroot : tag ≠ tagRootOfTrust) (h : IsField tag params)
    (hok : Acceptable tag params) : Taken tag params := by
  obtain ⟨shape, hshape, hne⟩ := asn1Type_of_mem hmem hroot
  obtain ⟨type, htypes, htype⟩ := asn1Type_tagType hshape
  cases shape with
  | setOfInteger =>
    cases mem_singleton.mp htypes
    exact taken_set hshape htype h (hok.2 htype)
  | integerU32 =>
    simp only [tagTypes, mem_cons, List.not_mem_nil, or_false] at htypes
    rcases htypes with rfl | rfl
    all_goals
      obtain ⟨value, rfl, hval, hcontent⟩ := isField_single h htype (by decide)
      exact taken_u32 hshape hval hcontent rfl (encodeParams_single htype value)
  | integerU64 =>
    simp only [tagTypes, mem_cons, List.not_mem_nil, or_false] at htypes
    rcases htypes with rfl | rfl | rfl
    all_goals
      obtain ⟨value, rfl, hval, hcontent⟩ := isField_single h htype (by decide)
      exact taken_u64 hshape hval hcontent rfl (encodeParams_single htype value)
  | null =>
    cases mem_singleton.mp htypes
    obtain ⟨value, rfl, rfl, hcontent⟩ := isField_single h htype (by decide)
    exact taken_null hshape hcontent rfl (encodeParams_single htype true)
  | octetString =>
    cases mem_singleton.mp htypes
    exact absurd htype hok.1
  | rootOfTrust => exact absurd rfl hne

theorem acceptable_of_ok (hmem : tag ∈ km4AttestAuthlist) (hroot : tag ≠ tagRootOfTrust) (h : IsField tag params)
    (hsmall : (fieldContent tag params).length < 65536) {size : ListSize}
    (hok : (authorizationListParseAsn1 tag (fieldContent tag params) size).2 = .ok ()) : Acceptable tag params := by
  obtain ⟨shape, hshape, hne⟩ := asn1Type_of_mem hmem hroot
  obtain ⟨type, htypes, htype⟩ := asn1Type_tagType hshape
  constructor
  · intro hbytes
    cases htype.symm.trans hbytes
    cases shape <;> simp [tagTypes] at htypes
    · rw [authorizationListParseAsn1, hshape] at hok
      rw [parseAsn1OctetString_fails] at hok
      cases hok
    · exact hne rfl
  · intro hset
    cases htype.symm.trans hset
    cases shape <;> simp [tagTypes] at htypes
    by_contra hcnt
    exact long_set_fails hshape hset h (by omega) hsmall size hok

end

section
variable {params : List KeyParam}

theorem getTagId_nodup : (km4AttestAuthlist.map getTagId).Nodup := by decide

theorem getTagId_lt : ∀ tag ∈ km4AttestAuthlist, getTagId tag < 16384 := by
  have hall : km4AttestAuthlist.all (fun tag => getTagId tag < 16384) = true := by decide
  intro tag htag
  exact of_decide_eq_true (List.all_eq_true.mp hall tag htag)

variable {tag : Tag}

theorem mem_field {param : KeyParam} : param ∈ field params tag ↔ param ∈ params ∧ param.tag = tag := by
  rw [field, List.mem_filter, decide_eq_true_eq]

theorem Listed.flatMap_field (h : Listed params) : km4AttestAuthlist.flatMap (field params) = params := by
  refine AuthorizationListComplete.flatMap_field _ getTagId_nodup.of_map params ?_ ?_
  · exact fun param hparam => (h.tags param hparam).1
  · refine h.order.imp ?_
    rintro a b (hlt | ⟨heq, -⟩)
    · exact Nat.le_of_lt hlt
    · rw [heq]

theorem Listed.isField (h : Listed params) (hpresent : field params tag ≠ []) : IsField tag (field params tag) where
  tags param hparam := (mem_field.mp hparam).2
  values param hparam := h.values param (mem_field.mp hparam).1
  single := by
    intro hset
    have horder := h.order.sublist (List.filter_sublist (l := params) (p := fun param => param.tag = tag))
    have htags : ∀ param ∈ field params tag, param.tag = tag := fun param hparam => (mem_field.mp hparam).2
    change (field params tag).Pairwise _ at horder
    match hfield : field params tag with
    | [] => exact absurd hfield hpresent
    | [_] => rfl
    | a :: b :: rest =>
      rw [hfield] at horder htags
      have ha := htags a mem_cons_self
      have hb := htags b (List.mem_cons_of_mem _ mem_cons_self)
      rcases (List.pairwise_cons.mp horder).1 b mem_cons_self with hlt | ⟨-, htype⟩
      · rw [ha, hb] at hlt
        exact absurd hlt (Nat.lt_irrefl _)
      · rw [ha] at htype
        exact absurd htype hset

theorem Listed.not_root (h : Listed params) (hpresent : field params tag ≠ []) : tag ≠ tagRootOfTrust := by
  rintro rfl
  exact hpresent (field_eq_nil fun param hparam => (h.tags param hparam).2)

variable {table : List Tag}

theorem visitFields_taken (htaken : ∀ tag ∈ table, field params tag ≠ [] → Taken tag (field params tag)) :
    (∀ size, ∃ len, visitFields authorizationListParseAsn1 params table size =
      (size.add (table.flatMap (field params)).length len, .ok ())) ∧
    ∀ out, ∃ out', visitFields authorizationListSerializeTag params table out = (out', .ok ()) ∧
      out'.keyParams = out.keyParams ++ encodeParams (table.flatMap (field params)) := by
  induction table with
  | nil =>
    refine ⟨fun size => ⟨0, ?_⟩, fun out => ⟨out, rfl, (append_nil _).symm⟩⟩
    simp [visitFields, ListSize.add]
  | cons tag table ih =>
    obtain ⟨htag, htable⟩ := forall_mem_cons.mp htaken
    obtain ⟨hsize, hout⟩ := ih htable
    rcases hfield : field params tag with _ | ⟨param, rest⟩
    · -- an absent field adds nothing
      constructor
      · intro size
        obtain ⟨len, hlen⟩ := hsize size
        refine ⟨len, ?_⟩
        rw [visitFields, if_pos hfield, hlen, flatMap_cons, hfield, nil_append]
      · intro out
        obtain ⟨out', hres, hwritten⟩ := hout out
        refine ⟨out', ?_, ?_⟩
        · rw [visitFields, if_pos hfield, hres]
        · rw [flatMap_cons, hfield, nil_append, hwritten]
    · have hpresent : field params tag ≠ [] := by
        rw [hfield]
        exact List.cons_ne_nil _ _
      obtain ⟨-, hsizeTag, houtTag⟩ := htag hpresent
      constructor
      · intro size
        obtain ⟨len, hlen⟩ := hsizeTag size
        obtain ⟨len', hlen'⟩ := hsize (size.add (field params tag).length len)
        refine ⟨len + len', ?_⟩
        rw [visitFields, if_neg hpresent, hlen]
        dsimp only
        rw [hlen', flatMap_cons, length_append]
        simp only [ListSize.add, BitVec.ofNat_add, BitVec.add_assoc, Nat.add_assoc]
      · intro out
        obtain ⟨mid, hmid, hwrittenTag⟩ := houtTag out
        obtain ⟨out', hres, hwritten⟩ := hout mid
        refine ⟨out', ?_, ?_⟩
        · rw [visitFields, if_neg hpresent, hmid]
          exact hres
        · rw [flatMap_cons, encodeParams_append, hwritten, hwrittenTag, append_assoc]

theorem acceptable_of_visitFields (h : Listed params) (hmem : ∀ tag ∈ table, tag ∈ km4AttestAuthlist)
    (hlen : (derFields params table).length < 65536) {size : ListSize}
    (hok : (visitFields authorizationListParseAsn1 params table size).2 = .ok ()) :
    ∀ tag ∈ table, field params tag ≠ [] → Acceptable tag (field params tag) := by
  induction table generalizing size with
  | nil => exact forall_mem_nil _
  | cons tag table ih =>
    obtain ⟨hmemTag, hmem⟩ := forall_mem_cons.mp hmem
    rw [derFields, flatMap_cons, length_append, derField] at hlen
    rw [visitFields] at hok
    split_ifs at hok hlen with habsent
    · exact forall_mem_cons.mpr ⟨fun hpresent => absurd habsent hpresent, ih hmem (by rw [derFields]; omega) hok⟩
    · rw [derExplicit, length_append] at hlen
      rcases hres : authorizationListParseAsn1 tag (fieldContent tag (field params tag)) size with ⟨size', e | _⟩
      · rw [hres] at hok
        cases hok
      · rw [hres] at hok
        refine forall_mem_cons.mpr ⟨fun hpresent => ?_, ih hmem (by rw [derFields]; omega) hok⟩
        exact acceptable_of_ok hmemTag (h.not_root hpresent) (h.isField hpresent) (by omega)
          (congrArg Prod.snd hres)

theorem length_derExplicitTag_le (number : Nat) : (derExplicitTag number).length ≤ 3 := by
  rw [derExplicitTag]
  split_ifs <;> simp only [length_cons, List.length_nil] <;> decide

theorem length_derFields_le (htaken : ∀ tag ∈ table, field params tag ≠ [] → Taken tag (field params tag)) :
    (derFields params table).length ≤ 134 * table.length := by
  induction table with
  | nil => exact Nat.le_refl _
  | cons tag table ih =>
    obtain ⟨htag, htable⟩ := forall_mem_cons.mp htaken
    have hrest := ih htable
    have hfield : (derField params tag).length ≤ 134 := by
      rw [derField]
      split_ifs with habsent
      · exact Nat.zero_le _
      · have hshort := (htag habsent).1
        have hnum := length_derExplicitTag_le (getTagId tag)
        have hhdr := length_derLength_le (lt_of_le_of_lt hshort (by decide))
        rw [derExplicit, length_append, length_append]
        omega
    rw [derFields] at hrest
    rw [derFields, flatMap_cons, length_append, length_cons]
    omega

def fieldCapacity (tag : Tag) : Nat := if keymasterTagGetType tag = some .enumRep then 42 else 1

theorem Listed.length_le (h : Listed params)
    (hsets : ∀ tag, keymasterTagGetType tag = some .enumRep → (field params tag).length ≤ 42) :
    params.length ≤ 1000 := by
  have hfield : ∀ tag, (field params tag).length ≤ fieldCapacity tag := by
    intro tag
    rw [fieldCapacity]
    split_ifs with hset
    · exact hsets tag hset
    · rcases hfield : field params tag with _ | ⟨param, rest⟩
      · exact Nat.zero_le _
      · have hpresent : field params tag ≠ [] := by
          rw [hfield]
          exact List.cons_ne_nil _ _
        rw [← hfield]
        exact Nat.le_of_eq ((h.isField hpresent).single hset)
  calc params.length = (km4AttestAuthlist.flatMap (field params)).length := by rw [h.flatMap_field]
    _ = (km4AttestAuthlist.map fun tag => (field params tag).length).sum := List.length_flatMap
    _ ≤ (km4AttestAuthlist.map fieldCapacity).sum := List.sum_le_sum fun tag _ => hfield tag
    _ ≤ 1000 := by decide

theorem readSeqLength_derAuthorizationList (hlen : (derFields params km4AttestAuthlist).length < 65536) :
    derParserReadSeqLength (derAuthorizationList params) =
      some ((derFields params km4AttestAuthlist).length, derFields params km4AttestAuthlist) :=
  getLength_derLength hlen _ (Nat.le_refl _)

theorem parse_of_made {keyType hwAuthType : U32} {made : AuthorizationListOut}
    (h : sspKeyparserMakeAuthorizationList keyType hwAuthType (derAuthorizationList params) = .ok made) :
    (derFields params km4AttestAuthlist).length < 65536 ∧
      (authorizationListParseAuthlist (derFields params km4AttestAuthlist)).2 = .ok () := by
  rw [sspKeyparserMakeAuthorizationList] at h
  rcases Nat.lt_or_ge (derFields params km4AttestAuthlist).length 65536 with hshort | hlong
  · refine ⟨hshort, ?_⟩
    rw [readSeqLength_derAuthorizationList hshort] at h
    dsimp only at h
    rw [if_pos rfl] at h
    rcases hparse : authorizationListParseAuthlist (derFields params km4AttestAuthlist) with ⟨size, e | _⟩
    · rw [hparse] at h
      cases h
    · rfl
  · split at h
    · cases h
    · rename_i seqLen pos hseq
      change derParserGetLength (derLength _ ++ _) = _ at hseq
      obtain ⟨-, hconsumes, -, hle⟩ := derParserGetLength_bounds hseq
      have hwidth := two_lt_byteWidth hlong
      rw [derLength_long (by omega), length_append, length_cons, length_toBigEndian] at hconsumes
      rw [if_neg (by omega)] at h
      cases h

end

/-- An encoded list comes back as it was just when it has no byte string and no set that needs a
long length. -/
theorem derAuthorizationList_decodes_iff (params : List KeyParam) (h : Listed params) (keyType hwAuthType : U32) :
    (∃ made, sspKeyparserMakeAuthorizationList keyType hwAuthType (derAuthorizationList params) = .ok made ∧
      sspSerializerDeserializeParams made.out.keyParams = .ok (params, [])) ↔
    (∀ param ∈ params, keymasterTagGetType param.tag ≠ some .bytes) ∧
      ∀ tag, keymasterTagGetType tag = some .enumRep → (field params tag).length ≤ 42 := by
  have hwalk : ∀ {σ : Type} (visit : Visit σ) (s : σ), (derFields params km4AttestAuthlist).length < 65536 →
      walkAuthlist visit km4AttestAuthlist (derFields params km4AttestAuthlist) s =
        visitFields visit params km4AttestAuthlist s :=
    fun visit s => walkAuthlist_derFields visit params [] km4AttestAuthlist s getTagId_nodup getTagId_lt
  have hmember : ∀ {param}, param ∈ params → field params param.tag ≠ [] :=
    fun hparam => List.ne_nil_of_mem (mem_field.mpr ⟨hparam, rfl⟩)
  constructor
  · rintro ⟨made, hmade, -⟩
    obtain ⟨hlength, hparse⟩ := parse_of_made hmade
    rw [authorizationListParseAuthlist, hwalk _ _ hlength] at hparse
    have hfields := acceptable_of_visitFields h (fun _ htag => htag) hlength hparse
    constructor
    · intro param hparam
      exact (hfields param.tag (h.tags param hparam).1 (hmember hparam)).1
    · intro tag hset
      rcases hfield : field params tag with _ | ⟨param, rest⟩
      · exact Nat.zero_le _
      · have hmem : param ∈ field params tag := hfield ▸ mem_cons_self
        obtain ⟨hparam, rfl⟩ := mem_field.mp hmem
        rw [← hfield]
        exact (hfields param.tag (h.tags param hparam).1 (hmember hparam)).2 hset
  · rintro ⟨hbytes, hsets⟩
    have htaken : ∀ tag ∈ km4AttestAuthlist, field params tag ≠ [] → Taken tag (field params tag) := by
      intro tag htag hpresent
      obtain ⟨param, hmem⟩ := List.exists_mem_of_ne_nil _ hpresent
      obtain ⟨hparam, rfl⟩ := mem_field.mp hmem
      exact taken_of_acceptable htag (h.not_root hpresent) (h.isField hpresent) ⟨hbytes param hparam, hsets _⟩
    have hlength : (derFields params km4AttestAuthlist).length < 65536 :=
      lt_of_le_of_lt (length_derFields_le htaken) (by decide)
    obtain ⟨hsize, hout⟩ := visitFields_taken htaken
    rw [h.flatMap_field] at hsize hout
    obtain ⟨len, hlen⟩ := hsize ⟨0#32, 4⟩
    rw [← hwalk _ _ hlength] at hlen
    have hnum : ((⟨0#32, 4⟩ : ListSize).add params.length len).paramsNum = ofNat 32 params.length :=
      BitVec.zero_add _
    obtain ⟨out, hres, hwritten⟩ := hout ⟨appendU32 (ofNat 32 params.length), keyType, hwAuthType⟩
    rw [← hwalk _ _ hlength, ← hnum] at hres
    refine ⟨_, makeAuthorizationList_ok (readSeqLength_derAuthorizationList hlength) hlen hres, ?_⟩
    have hser : ∀ param ∈ params, Serializable param := by
      intro param hparam
      obtain ⟨shape, hshape, -⟩ := asn1Type_of_mem (h.tags param hparam).1 (h.tags param hparam).2
      obtain ⟨type, -, htype⟩ := asn1Type_tagType hshape
      exact Option.isSome_iff_exists.mpr ⟨type, htype⟩
    have hbound : (encodeParams params).length < 2 ^ 32 := by
      obtain ⟨num, len', -, hlen', params', hwritten', -, hle, -⟩ :=
        walk_covers hlen ⟨appendU32 (ofNat 32 params.length), keyType, hwAuthType⟩
      rw [← hnum, hres] at hwritten'
      rw [hnum] at hwritten'
      have hsame := List.append_cancel_left (hwritten.symm.trans hwritten')
      rw [hsame]
      omega
    have hdecode := deserialize_encodeParams params [] hser hbound (h.length_le hsets)
    rw [append_nil] at hdecode
    rw [hwritten]
    exact hdecode

/-- `KM_TAG_ATTESTATION_ID_BRAND` with one byte. -/
def brandParam : KeyParam := ofType tagAttestationIdBrand .bytes (by decide) [0x41#8]

theorem derAuthorizationList_brand_refused : Listed [brandParam] ∧
      sspKeyparserMakeAuthorizationList 0 0 (derAuthorizationList [brandParam]) = .error .invalidArgument := by
  constructor
  · refine ⟨?_, List.pairwise_singleton _ _, ?_⟩
    · exact List.forall_mem_singleton.mpr ⟨by decide, by decide⟩
    · exact List.forall_mem_singleton.mpr (by decide : [0x41#8].length < 128)
  · decide +kernel

def purposeParam (value : U32) : KeyParam := ofType tagPurpose .enumRep (by decide) value

theorem derAuthorizationList_decodes_purposes : ∃ made, sspKeyparserMakeAuthorizationList 0 0
        (derAuthorizationList [purposeParam 2, purposeParam 3, noAuthRequired]) = .ok made ∧
      sspSerializerDeserializeParams made.out.keyParams =
        .ok ([purposeParam 2, purposeParam 3, noAuthRequired], []) := by
  have hlisted : Listed [purposeParam 2, purposeParam 3, noAuthRequired] := by
    refine ⟨?_, by decide, ?_⟩
    · simp only [forall_mem_cons]
      exact ⟨⟨by decide, by decide⟩, ⟨by decide, by decide⟩, ⟨by decide, by decide⟩, forall_mem_nil _⟩
    · simp only [forall_mem_cons]
      exact ⟨(by decide : (2#32).toNat < 128), (by decide : (3#32).toNat < 128), rfl, forall_mem_nil _⟩
  refine (derAuthorizationList_decodes_iff _ hlisted 0 0).mpr ⟨?_, ?_⟩
  · simp only [forall_mem_cons]
    exact ⟨by decide, by decide, by decide, forall_mem_nil _⟩
  · intro tag _
    exact Nat.le_trans (List.length_filter_le _ _) (by decide)

end ExynosHal.Strongbox.AuthorizationListComplete
