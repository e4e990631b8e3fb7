import ExynosHal.Library.Der
import ExynosHal.Strongbox.WrappedKey

/-! # Fields of a well-formed wrapped key

What `ssp_keyparser_parse_wrappedkey` makes of the DER encoding of a wrapper.
-/

namespace ExynosHal.Strongbox.WrappedKey
open Library.BitString Library.ByteCursor Library.ByteCursor.Reader Library.Der Params
open List (append_assoc length_append length_cons length_nil)
open BitVec (ofNat toNat_ofNat)

structure SecureKeyWrapper where
  encryptedTransportKey : List Byte
  initializationVector : List Byte
  keyFormat : Byte
  authorizationList : List Byte
  encryptedKey : List Byte
  tag : List Byte
  length_initializationVector : initializationVector.length ≤ 16
  length_tag : tag.length = 16

namespace SecureKeyWrapper

variable (w : SecureKeyWrapper)

def keyParams : List Byte := derElement 0x30#8 w.authorizationList

def descriptionContents : List Byte := [0x02#8, 1, w.keyFormat] ++ w.keyParams

def keyDescription : List Byte := derElement 0x30#8 w.descriptionContents

def contents : List Byte :=
  [0x02#8, 1, 0] ++ derElement 0x04#8 w.encryptedTransportKey ++ derElement 0x04#8 w.initializationVector ++
    w.keyDescription ++ derElement 0x04#8 w.encryptedKey ++ derElement 0x04#8 w.tag

def encode : List Byte := derElement 0x30#8 w.contents

end SecureKeyWrapper

def Blob.Covers (input : List Byte) (b : Blob) (bytes : List Byte) : Prop :=
  (input.drop b.data.toNat).take b.dataLength.toNat = bytes ∧ b.dataLength.toNat = bytes.length

structure Fields.Exact (w : SecureKeyWrapper) (fields : Fields) : Prop where
  encryptedTransportKey : fields.encryptedTransportKey.Covers w.encode w.encryptedTransportKey
  iv : fields.iv = w.initializationVector
  keyDescription : fields.keyDescription.Covers w.encode w.keyDescription
  keyFormat : fields.keyFormat = w.keyFormat
  authList : fields.authList.Covers w.encode w.keyParams
  encryptedKey : fields.encryptedKey.Covers w.encode w.encryptedKey
  tag : fields.tag = w.tag

def ParsesExactly (w : SecureKeyWrapper) : Prop :=
  ∃ t fields, parseWrappedkey w.encode = some (t, .ok fields) ∧ fields.Exact w

theorem lengthBytes_derLength {len : Nat} (h : len < 65536) : LengthBytes len (derLength len) := by
  by_cases hshort : len < 128
  · rw [derLength_short hshort]
    have hform := LengthBytes.short (ofNat 8 len) (BitVec.lt_def.mpr (by simp; omega))
    rwa [toNat_ofNat, Nat.mod_eq_of_lt (by omega)] at hform
  by_cases hone : len < 256
  · rw [derLength_one (by omega) hone]
    have hform := LengthBytes.one (ofNat 8 len)
    rwa [toNat_ofNat, Nat.mod_eq_of_lt (by omega)] at hform
  · rw [derLength_two (by omega) h]
    have hform := LengthBytes.two (ofNat 8 (len / 256)) (ofNat 8 len)
    rwa [toNat_ofNat, toNat_ofNat, Nat.mod_eq_of_lt (by omega), Nat.div_add_mod] at hform

theorem not_lengthBytes_derLength {len len' : Nat} {bytes rest rest' : List Byte} (hlow : 65536 ≤ len)
    (hhigh : len < 2 ^ 64) (heq : derLength len ++ rest = bytes ++ rest') : ¬LengthBytes len' bytes := by
  have hmore := two_lt_byteWidth hlow
  have hless : byteWidth len ≤ 8 := (lt_byteWidth_iff (by omega) 8).mpr hhigh
  rw [derLength_long (by omega), List.cons_append] at heq
  have hfst : ∀ byte tail, bytes ++ rest' = byte :: tail → byte.toNat = 128 + byteWidth len := by
    intro byte tail htail
    rw [← (List.cons.inj (heq.trans htail)).1, toNat_ofNat, Nat.mod_eq_of_lt (by omega)]
  intro hform
  cases hform with
  | short val hval =>
    have hbyte := hfst val rest' rfl
    have hsmall := BitVec.lt_def.mp hval
    simp at hsmall
    omega
  | one low =>
    have hbyte := hfst 0x81#8 (low :: rest') rfl
    simp at hbyte
    omega
  | two high low =>
    have hbyte := hfst 0x82#8 (high :: low :: rest') rfl
    simp at hbyte
    omega

theorem element_derElement {tag : Byte} {body : List Byte} (h : body.length < 65536) :
    Element tag body (derElement tag body) :=
  ⟨derLength body.length, lengthBytes_derLength h, rfl⟩

theorem Blob.covers_of_split {input left bytes right : List Byte} {b : Blob} (hsplit : input = left ++ bytes ++ right)
    (hdata : b.data.toNat = left.length) (hlen : b.dataLength.toNat = bytes.length) : b.Covers input bytes := by
  refine ⟨?_, hlen⟩
  rw [hsplit, hdata, hlen, append_assoc, List.drop_left, List.take_left]

section
variable {input before rest : List Byte} {t : Track} {error : Track → Prop}

theorem ends_parseOctstring_element {body : List Byte} (hbody : body.length < 65536)
    (h : At input before (derElement 0x04#8 body ++ rest) t) {ok : Blob → Track → Prop}
    (hok : ∀ blob t', blob.Covers input body → At input (before ++ derElement 0x04#8 body) rest t' → ok blob t') :
    (parseOctstring input).Ends t ok error := by
  have helem : Element 0x04#8 body (derElement 0x04#8 body) := element_derElement hbody
  refine ends_parseOctstring h (fun blob body' header rest' t' heq helem' hdata hlen hat => ?_) fun t' _ hno => ?_
  · obtain ⟨rfl, hhdr, rfl⟩ := helem.unique helem' heq
    refine hok blob t' (Blob.covers_of_split hat.split hdata hlen) ?_
    rwa [hhdr, ← append_assoc]
  · exact absurd helem (hno body _ rest rfl)

variable {ok : List Byte → Track → Prop}

theorem ends_parseInitializationVector_element {iv : List Byte} (hiv : iv.length ≤ 16)
    (h : At input before (derElement 0x04#8 iv ++ rest) t)
    (hok : ∀ t', At input (before ++ derElement 0x04#8 iv) rest t' → ok iv t') :
    (parseInitializationVector input).Ends t ok error := by
  have hbytes : derElement 0x04#8 iv = 0x04#8 :: ofNat 8 iv.length :: iv := by
    rw [derElement, derLength_short (by omega)]
    rfl
  have hlen : (ofNat 8 iv.length).toNat = iv.length := by
    rw [toNat_ofNat, Nat.mod_eq_of_lt (by omega)]
  rw [hbytes] at h hok
  refine ends_parseInitializationVector h (fun len iv' rest' t' heq hiv' _ hat => ?_) fun t' _ hno => ?_
  · obtain ⟨rfl, hrest⟩ := List.cons.inj (List.cons.inj heq).2
    obtain ⟨rfl, rfl⟩ := List.append_inj hrest (hlen.symm.trans hiv'.symm)
    exact hok t' hat
  · exact absurd (BitVec.le_def.mpr (by rw [hlen]; exact hiv)) (hno _ iv rest rfl hlen.symm)

theorem ends_parseKeyDescription_element {format : Byte} {params : List Byte}
    (hparams : ([0x02#8, 1, format] ++ params).length < 65536)
    (h : At input before (derElement 0x30#8 ([0x02#8, 1, format] ++ params) ++ rest) t)
      {ok : Blob × Byte × Blob → Track → Prop}
    (hok : ∀ description authList t', description.data.toNat = before.length →
      description.dataLength.toNat = 2 + (params.length + 3) → authList.Covers input params →
      At input (before ++ derElement 0x30#8 ([0x02#8, 1, format] ++ params)) rest t' →
      ok (description, format, authList) t') :
    (parseKeyDescription input).Ends t ok error := by
  have helem : Element 0x30#8 ([0x02#8, 1, format] ++ params) _ := element_derElement hparams
  refine ends_parseKeyDescription h
    (fun description format' authList header params' rest' t' heq helem' hdata hextent hauth hlen hat => ?_)
    (fun description format' authList length left taken rest' t' heq hsplit htaken hlen _ _ _ => ?_) fun t' _ hno => ?_
  · obtain ⟨hbody, hbytes, rfl⟩ := helem.unique helem' heq
    obtain ⟨rfl, rfl⟩ : format = format' ∧ params = params' := by simpa using hbody
    refine hok description authList t' hdata hextent (Blob.covers_of_split hat.split hauth hlen) ?_
    rw [hbytes, ← append_assoc, ← append_assoc]
    exact hat
  · -- The description holds the three bytes of its key format, so its length has not wrapped.
    have hshort : left.length < 3 := by
      have hthree := congrArg List.length hsplit
      have hsome := List.length_pos_iff.mpr htaken
      rw [length_append] at hthree
      simp only [length_cons, length_nil] at hthree
      omega
    obtain ⟨length', hlen', hbytes⟩ := helem
    rw [hbytes, append_assoc] at heq
    simp only [List.cons_append, append_assoc] at heq
    obtain ⟨hsame, -⟩ := hlen'.unique hlen (List.cons.inj heq).2
    simp only [length_append, length_cons, length_nil] at hsame
    omega
  · obtain ⟨length', hlen', hbytes⟩ := helem
    have hlt := hno _ format length' (params ++ rest) (by rw [hbytes]; simp) hlen'
    simp only [length_append, length_cons, length_nil] at hlt
    omega

theorem ends_parseTag_element {tag : List Byte} (htag : tag.length = 16) (h : At input before (derElement 0x04#8 tag) t)
    (hok : ok tag t) : (parseTag input).Ends t ok error := by
  have hbytes : derElement 0x04#8 tag = [0x04#8, 16] ++ tag := by
    rw [derElement, htag, derLength_short (by decide)]
    rfl
  rw [hbytes] at h
  refine ends_parseTag h (fun tag' heq _ => ?_) fun _ hno => absurd htag (hno tag rfl)
  exact List.append_cancel_left heq ▸ hok

end

structure Fields.Parsed (w : SecureKeyWrapper) (fields : Fields) : Prop where
  encryptedTransportKey : fields.encryptedTransportKey.Covers w.encode w.encryptedTransportKey
  iv : fields.iv = w.initializationVector
  start : ∃ before after, w.encode = before ++ w.keyDescription ++ after ∧ fields.keyDescription.data.toNat =
    before.length
  extent : fields.keyDescription.dataLength.toNat = 2 + w.descriptionContents.length
  keyFormat : fields.keyFormat = w.keyFormat
  authList : fields.authList.Covers w.encode w.keyParams
  encryptedKey : fields.encryptedKey.Covers w.encode w.encryptedKey
  tag : fields.tag = w.tag

namespace SecureKeyWrapper

variable {w : SecureKeyWrapper}

theorem length_contents (w : SecureKeyWrapper) :
    w.encryptedTransportKey.length < w.contents.length ∧ w.descriptionContents.length < w.contents.length ∧
      w.encryptedKey.length < w.contents.length := by
  simp only [contents, keyDescription, length_append, length_derElement]
  refine ⟨?_, ?_, ?_⟩ <;> omega

variable (hsize : w.encode.length < 2 ^ 64)
include hsize

theorem ends_encode (hcontents : w.contents.length < 65536) :
    (sspKeyparserParseWrappedkey w.encode).Ends ⟨⟨0, ofNat 64 w.encode.length⟩, []⟩
      (fun fields _ => fields.Parsed w) fun _ => False := by
  obtain ⟨hkey, hdesc, hencrypted⟩ := w.length_contents
  refine .bind (ends_derParserGetLengthOfTag (At.start hsize) (fun len bytes rest t₁ heq hbytes hle hat₁ => ?_) fun t₁ _
    hno => ?_)
  rotate_left
  · exact absurd (hno _ _ w.contents rfl (lengthBytes_derLength hcontents)) (Nat.lt_irrefl _)
  obtain ⟨hlen, rfl, rfl⟩ := (lengthBytes_derLength hcontents).unique hbytes (List.cons.inj heq).2
  refine .bind (ends_cursor (.bind (ends_expect (fun _ => ?_) fun hpart => ?_)))
  rotate_left
  · refine ne_of_beq_false hpart (BitVec.eq_of_toNat_eq ?_)
    rw [hat₁.remain, ← hlen]
  have hcontents' : w.contents = [0x02#8, 1, 0] ++ (derElement 0x04#8 w.encryptedTransportKey ++
      (derElement 0x04#8 w.initializationVector ++ (w.keyDescription ++
        (derElement 0x04#8 w.encryptedKey ++ derElement 0x04#8 w.tag)))) := by
    simp only [contents, append_assoc]
  rw [hcontents'] at hat₁
  refine .bind (ends_parseVersion hat₁ (fun rest t₂ hrest hat₂ => ?_) fun _ hno => hno _ rfl)
  obtain rfl := List.append_cancel_left hrest
  refine .bind (ends_parseOctstring_element (by omega) hat₂ fun transportKey t₃ hcovers hat₃ => ?_)
  refine .bind (ends_parseInitializationVector_element w.length_initializationVector hat₃ fun t₄ hat₄ => ?_)
  refine .bind (ends_parseKeyDescription_element (by exact hdesc.trans hcontents) hat₄
    fun description authList t₅ hdata hextent hauth hat₅ => ?_)
  refine .bind (ends_parseOctstring_element (by omega) hat₅ fun encryptedKey t₆ hcovers' hat₆ => ?_)
  refine .bind (ends_parseTag_element w.length_tag hat₆ (ends_pure ?_))
  refine ⟨hcovers, rfl, ⟨_, _, hat₅.split, hdata⟩, ?_, rfl, hauth, hcovers', rfl⟩
  rw [hextent]
  simp [descriptionContents]

theorem contents_lt_of_parsesExactly (h : ParsesExactly w) : w.contents.length < 65536 := by
  obtain ⟨t, fields, hrun, -⟩ := h
  by_contra hlarge
  have hless : w.contents.length < 2 ^ 64 := by
    rw [encode, length_derElement] at hsize
    omega
  have hends : (sspKeyparserParseWrappedkey w.encode).Ends ⟨⟨0, ofNat 64 w.encode.length⟩, []⟩
      (fun _ _ => False) fun _ => True := by
    refine .bind (ends_derParserGetLengthOfTag (At.start hsize) (fun len bytes rest t₁ heq hbytes _ _ => ?_) fun _ _
      _ => trivial)
    exact absurd hbytes (not_lengthBytes_derLength (by omega) hless (List.cons.inj heq).2)
  obtain ⟨t', r, hrun', hr⟩ := hends
  cases hrun.symm.trans hrun'
  exact hr

theorem description_lt_of_parsesExactly (h : ParsesExactly w) : w.descriptionContents.length < 128 := by
  have hcontents := contents_lt_of_parsesExactly hsize h
  obtain ⟨t, fields, hrun, hexact⟩ := h
  obtain ⟨t', r, hrun', hparsed⟩ := ends_encode hsize hcontents
  cases hrun.symm.trans hrun'
  have hextent := hparsed.extent
  rw [hexact.keyDescription.2, keyDescription, length_derElement] at hextent
  by_contra hlong
  rw [derLength_long (by omega), length_cons, length_toBigEndian, byteWidth] at hextent
  omega

theorem parsesExactly_of_lt (hcontents : w.contents.length < 65536)
    (hdesc : w.descriptionContents.length < 128) : ParsesExactly w := by
  obtain ⟨t, r, hrun, hparsed⟩ := ends_encode hsize hcontents
  cases r with
  | error e => exact hparsed.elim
  | ok fields =>
    have hparsed : fields.Parsed w := hparsed
    refine ⟨t, fields, hrun, { hparsed with keyDescription := ?_ }⟩
    obtain ⟨before, after, hsplit, hdata⟩ := hparsed.start
    refine Blob.covers_of_split hsplit hdata ?_
    rw [hparsed.extent, keyDescription, length_derElement, derLength_short hdesc, List.length_singleton]

end SecureKeyWrapper

/-- The fields of a wrapped key are exact if the header of the key description has two bytes, and the length of the
whole wrapper is one that the readers know. -/
theorem parsesExactly_iff (w : SecureKeyWrapper) (hsize : w.encode.length < 2 ^ 64) :
    ParsesExactly w ↔ w.contents.length < 65536 ∧ w.descriptionContents.length < 128 := by
  constructor
  · intro h
    exact ⟨SecureKeyWrapper.contents_lt_of_parsesExactly hsize h, SecureKeyWrapper.description_lt_of_parsesExactly hsize
      h⟩
  · rintro ⟨hcontents, hdesc⟩
    exact SecureKeyWrapper.parsesExactly_of_lt hsize hcontents hdesc

def applicationIdWrapper (size : Nat) : SecureKeyWrapper where
  encryptedTransportKey := []
  initializationVector := []
  keyFormat := 3
  authorizationList :=
    [0xBF#8, 0x85, 0x45, ofNat 8 (size + 2), 0x04, ofNat 8 size] ++ List.replicate size 0x61#8
  encryptedKey := []
  tag := List.replicate 16 0#8
  length_initializationVector := by simp
  length_tag := by simp

theorem parsesExactly_iff_shortId :
    (applicationIdWrapper 5).encode.length < 2 ^ 64 ∧ ParsesExactly (applicationIdWrapper 5) :=
  ⟨by decide, (parsesExactly_iff (applicationIdWrapper 5) (by decide)).mpr ⟨by decide, by decide⟩⟩

theorem not_parsesExactly_longId : ¬∀ w : SecureKeyWrapper, w.encode.length < 2 ^ 64 →
    w.authorizationList.length ≤ 65536 → ParsesExactly w := by
  intro h
  have hsize : (applicationIdWrapper 117).encode.length < 2 ^ 64 := by set_option maxRecDepth 20000 in decide
  have hexact := h (applicationIdWrapper 117) hsize (by set_option maxRecDepth 20000 in decide)
  exact absurd (SecureKeyWrapper.description_lt_of_parsesExactly hsize hexact)
    (by set_option maxRecDepth 20000 in decide)

end ExynosHal.Strongbox.WrappedKey
