import ExynosHal.Strongbox.Pkcs8

/-! # The encodings that the PKCS#8 parsers accept

One language for each step of the parsers, and from them those of the keys. Lengths may be in
any form that the readers know, and the length of the algorithm is not looked at.
-/

namespace ExynosHal.Strongbox.Pkcs8
open Library.BitString Library.ByteCursor Library.ByteCursor.Reader Library.LittleEndian Params WrappedKey
open List (append_assoc append_nil drop_left length_append take_append_drop)
open BitVec (eq_of_toNat_eq ofNat toNat_ofNat)

variable {input : List Byte}

def LengthAhead : Readings U64 := fun len _ taken rest => LengthBytes len.toNat taken ∧ len.toNat ≤ rest.length

def Header (tag : Byte) : Readings U64 := fun len _ taken rest =>
  ∃ bytes, taken = tag :: bytes ∧ LengthBytes len.toNat bytes ∧ len.toNat ≤ rest.length

def Whole (tag : Byte) : Readings Unit :=
  fun _ _ taken rest => ∃ bytes, taken = tag :: bytes ∧ LengthBytes rest.length bytes

def Literal (bytes : List Byte) : Readings Unit := fun _ _ taken _ => taken = bytes

theorem recognizes_derParserGetLength :
    Recognizes input (derParserGetLength input) LengthAhead ∧ Total input (derParserGetLength input) := by
  refine recognizes_of_ends (fun hat => ?_) fun hlang hlang' heq => ?_
  · refine ends_derParserGetLength hat (fun len bytes rest t' hsplit hbytes hle hat' => ?_) fun t' _ hno => ?_
    · exact ⟨bytes, rest, hsplit, ⟨hbytes, hle⟩, hat'⟩
    · intro len taken rest hsplit hlang
      exact absurd (hno len.toNat taken rest hsplit hlang.1) (Nat.not_lt.mpr hlang.2)
  · obtain ⟨hlen, htaken, -⟩ := hlang.1.unique hlang'.1 heq
    exact ⟨eq_of_toNat_eq hlen, htaken⟩

variable (tag : Byte)

theorem recognizes_derParserGetLengthOfTag :
    Recognizes input (derParserGetLengthOfTag input tag) (Header tag) ∧
    Total input (derParserGetLengthOfTag input tag) := by
  refine recognizes_of_ends (fun hat => ?_) ?_
  · refine ends_derParserGetLengthOfTag hat (fun len bytes rest t' hsplit hbytes hle hat' => ?_) fun t' _ hno => ?_
    · exact ⟨tag :: bytes, rest, hsplit, ⟨bytes, rfl, hbytes, hle⟩, hat'⟩
    · rintro len _ rest hsplit ⟨bytes, rfl, hbytes, hle⟩
      exact absurd (hno len.toNat bytes rest hsplit hbytes) (Nat.not_lt.mpr hle)
  · rintro len len' before _ _ rest rest' ⟨bytes, rfl, hbytes, -⟩ ⟨bytes', rfl, hbytes', -⟩ heq
    obtain ⟨hlen, rfl, -⟩ := hbytes.unique hbytes' (List.cons.inj heq).2
    exact ⟨eq_of_toNat_eq hlen, rfl⟩

variable {bytes : List Byte}

theorem recognizes_parseLiteral (hbytes : bytes.length < 2 ^ 64) :
    Recognizes input (parseLiteral input bytes) (Literal bytes) ∧ Total input (parseLiteral input bytes) := by
  have hlen : (ofNat 64 bytes.length).toNat = bytes.length := by
    rw [toNat_ofNat, Nat.mod_eq_of_lt hbytes]
  refine recognizes_of_ends (fun {before ahead t} hat => ?_) fun hlang hlang' _ => ⟨rfl, hlang.trans hlang'.symm⟩
  refine .bind (ends_requireRemain hat (fun hremain => ?_) fun hremain => ?_)
  · rw [hlen] at hremain
    refine .bind (ends_requireBytes hat (i := 0) (by rwa [Nat.zero_add]) (fun rest hrest => ?_) fun hno => ?_)
    · obtain rfl : ahead = bytes ++ rest := hrest
      exact hat.ends_advance bytes hlen fun t' hat' => ⟨bytes, rest, rfl, rfl, hat'⟩
    · rintro _ _ rest hsplit rfl
      exact hno rest hsplit
  · rintro _ _ rest rfl rfl
    rw [hlen, length_append] at hremain
    omega

theorem recognizes_parseWhole :
    Recognizes input (parseWhole input tag) (Whole tag) ∧ Total input (parseWhole input tag) := by
  refine recognizes_of_ends (fun hat => ?_) ?_
  · refine .bind (ends_derParserGetLengthOfTag hat (fun len bytes rest t' hsplit hbytes hle hat' => ?_) fun t' _ hno =>
      ?_)
    · refine .bind (ends_cursor (ends_expect (fun hsame => ?_) fun hother => ?_))
      · have hlen : len.toNat = rest.length := by rw [eq_of_beq hsame, hat'.remain]
        exact ⟨tag :: bytes, rest, hsplit, ⟨bytes, rfl, hlen ▸ hbytes⟩, hat'⟩
      · rintro _ _ rest' hsplit' ⟨bytes', rfl, hbytes'⟩
        obtain ⟨hlen, -, rfl⟩ := hbytes.unique hbytes' (List.cons.inj (hsplit.symm.trans hsplit')).2
        exact ne_of_beq_false hother (eq_of_toNat_eq (by rw [hat'.remain, hlen]))
    · rintro _ _ rest hsplit ⟨bytes, rfl, hbytes⟩
      exact absurd (hno rest.length bytes rest hsplit hbytes) (Nat.lt_irrefl _)
  · rintro _ _ before _ _ rest rest' ⟨bytes, rfl, hbytes⟩ ⟨bytes', rfl, hbytes'⟩ heq
    obtain ⟨-, rfl, -⟩ := hbytes.unique hbytes' (List.cons.inj heq).2
    exact ⟨rfl, rfl⟩

def Taken (len : U64) : Readings (List Byte) := fun bytes _ taken _ => bytes = taken ∧ taken.length = len.toNat

def Front (object : List Byte) (len : U64) : Readings Unit := fun _ _ taken _ =>
  taken <+: object ∧ taken.length = len.toNat

variable {len : U64} {t : Track}

theorem takeBytes_run {before bytes rest : List Byte} (hat : At input before (bytes ++ rest) t)
    (hlen : bytes.length = len.toNat) :
    ∃ t', takeBytes input len t = some (t', .ok bytes) ∧ At input (before ++ bytes) rest t' := by
  have hends : (takeBytes input len).Ends t (fun a t' => a = bytes ∧ At input (before ++ bytes) rest t') fun _ =>
    False := .bind (hat.ends_copy [] bytes rfl hlen.symm
      (.bind (hat.ends_advance bytes hlen.symm fun t' hat' => ends_pure ⟨rfl, hat'⟩)))
  obtain ⟨t', r, hrun, hr⟩ := hends
  cases r with
  | error e => exact hr.elim
  | ok a =>
    obtain ⟨rfl, hat'⟩ := hr
    exact ⟨t', hrun, hat'⟩

variable {t' : Track}

theorem copy_eq_ok {i len : U64} (h : (copy input i len : Parser (List Byte)) t = some (t', .ok bytes)) :
    t' = t ∧ (t.cursor.pos + i).toNat + len.toNat ≤ input.length ∧
      bytes = (input.drop (t.cursor.pos + i).toNat).take len.toNat := by
  obtain ⟨hle, heq⟩ := Option.ite_none_right_eq_some.mp h
  cases heq
  exact ⟨rfl, hle, rfl⟩

variable {before ahead : List Byte}

theorem split_of_le (hat : At input before ahead t) (len : Nat)
    (hle : before.length + len ≤ input.length) : ∃ bytes rest, ahead = bytes ++ rest ∧ bytes.length = len := by
  have hlen := hat.length_eq
  exact ⟨ahead.take len, ahead.drop len, (take_append_drop _ _).symm, List.length_take_of_le (by omega)⟩

theorem recognizes_takeBytes (len : U64) : Recognizes input (takeBytes input len) (Taken len) := by
  constructor
  · intro before ahead t t' bytes hat hrun
    obtain ⟨bytes', mid, hcopy, hrest⟩ := bind_eq_ok_iff.mp hrun
    obtain ⟨rfl, hle, -⟩ := copy_eq_ok hcopy
    rw [show (0 : U64) = ofNat 64 0 from rfl, hat.toNat_pos_add (Nat.zero_le _), Nat.add_zero] at hle
    obtain ⟨bytes, rest, rfl, hbytes⟩ := split_of_le hat _ hle
    obtain ⟨t'', hrun', hat'⟩ := takeBytes_run hat hbytes
    cases hrun.symm.trans hrun'
    exact ⟨bytes, rest, rfl, ⟨rfl, hbytes⟩, hat'⟩
  · rintro before _ rest t bytes hat ⟨rfl, hlen⟩
    exact takeBytes_run hat hlen

theorem takeBytes_ne_none (hat : At input before ahead t)
    (hle : len.toNat ≤ ahead.length) : takeBytes input len t ≠ none := by
  have hlen := hat.length_eq
  obtain ⟨bytes, rest, rfl, hbytes⟩ := split_of_le hat len.toNat (by omega)
  obtain ⟨t', hrun, -⟩ := takeBytes_run hat hbytes
  rw [hrun]
  nofun

variable (object : List Byte)

theorem memcmp_run {before bytes rest : List Byte}
    (hat : At input before (bytes ++ rest) t) (hlen : bytes.length = len.toNat) :
    (memcmp input object len : Parser Bool) t =
      if len.toNat ≤ object.length then some (t, .ok (bytes == object.take len.toNat)) else none := by
  have hfits : t.cursor.pos.toNat + len.toNat ≤ input.length := by
    rw [hat.length_eq, hat.pos, length_append]
    omega
  have hbytes : (input.drop t.cursor.pos.toNat).take len.toNat = bytes := by
    rw [hat.pos, hat.split, drop_left, ← hlen, List.take_left]
  simp only [memcmp, hfits, true_and, hbytes]

theorem beq_take_iff {bytes object : List Byte} : (bytes == object.take bytes.length) ↔ bytes <+: object := by
  rw [beq_iff_eq, List.prefix_iff_eq_take]

theorem advance_run {before bytes rest : List Byte} (hat : At input before (bytes ++ rest) t)
    (hlen : bytes.length = len.toNat) :
    ∃ t', (advance len : Parser Unit) t = some (t', .ok ()) ∧ At input (before ++ bytes) rest t' := by
  have hends : (advance len : Parser Unit).Ends t (fun _ t' => At input (before ++ bytes) rest t') fun _ => False :=
    hat.ends_advance bytes hlen.symm fun t' hat' => hat'
  obtain ⟨t', r, hrun, hr⟩ := hends
  cases r with
  | error e => exact hr.elim
  | ok u => exact ⟨t', hrun, hr⟩

theorem recognizes_parseObject (len : U64) : Recognizes input (parseObject input object len) (Front object len) := by
  constructor
  · intro before ahead t t' u hat hrun
    obtain ⟨same, mid, hmemcmp, hrest⟩ := bind_eq_ok_iff.mp hrun
    obtain ⟨⟨hin, -⟩, -⟩ := Option.ite_none_right_eq_some.mp hmemcmp
    rw [hat.pos] at hin
    obtain ⟨bytes, rest, rfl, hbytes⟩ := split_of_le hat _ hin
    rw [memcmp_run object hat hbytes] at hmemcmp
    obtain ⟨hle, hsame⟩ := Option.ite_none_right_eq_some.mp hmemcmp
    cases hsame
    obtain ⟨_, mid, hrequire, hadv⟩ := bind_eq_ok_iff.mp hrest
    obtain ⟨rfl, hcond⟩ := expect_eq_ok_iff.mp hrequire
    rw [← hbytes, beq_take_iff] at hcond
    obtain ⟨t'', hadv', hat'⟩ := advance_run hat hbytes
    cases hadv.symm.trans hadv'
    exact ⟨bytes, rest, rfl, ⟨hcond, hbytes⟩, hat'⟩
  · rintro before bytes rest t u hat ⟨hfront, hlen⟩
    have hle : len.toNat ≤ object.length := hlen ▸ hfront.length_le
    have hmemcmp := memcmp_run object hat hlen
    rw [if_pos hle, ← hlen, beq_take_iff.mpr hfront] at hmemcmp
    obtain ⟨t', hadv, hat'⟩ := advance_run hat hlen
    exact ⟨t', bind_eq_ok_iff.mpr ⟨true, t, hmemcmp, bind_eq_ok_iff.mpr ⟨(), t, rfl, hadv⟩⟩, hat'⟩

theorem parseObject_eq_none_iff {before ahead object : List Byte}
    (hat : At input before ahead t) (hle : len.toNat ≤ ahead.length) :
    parseObject input object len t = none ↔ object.length < len.toNat := by
  have hlen := hat.length_eq
  obtain ⟨bytes, rest, rfl, hbytes⟩ := split_of_le hat len.toNat (by omega)
  rw [parseObject, bind_eq_none_iff, memcmp_run object hat hbytes]
  by_cases hfits : len.toNat ≤ object.length
  · rw [if_pos hfits]
    refine iff_of_false ?_ (by omega)
    rintro (hnone | ⟨same, mid, hsame, hrest⟩)
    · cases hnone
    · rcases bind_eq_none_iff.mp hrest with hnone | ⟨u, mid', -, hnone⟩ <;> cases hnone
  · rw [if_neg hfits]
    exact iff_of_true (Or.inl rfl) (by omega)

def HasAlgorithm (found rest bytes : List Byte) : Prop :=
  ∃ len length element, Element 0x30#8 ([0x02#8, 1, 0] ++ (0x30#8 :: length ++ (element ++ rest))) bytes ∧
    LengthBytes len length ∧ len ≤ (element ++ rest).length ∧ Element 0x06#8 found element

structure AtOid (input found rest : List Byte) (t : Track) : Prop where
  algorithm : HasAlgorithm found rest input
  at_ : ∃ before, At input before (found ++ rest) t

variable {u : Unit}

theorem parseWhole_sound {tag : Byte} (hat : At input before ahead t)
    (hrun : parseWhole input tag t = some (t', .ok u)) :
    ∃ header body, Element tag body ahead ∧ At input (before ++ header) body t' := by
  obtain ⟨_, body, rfl, ⟨bytes, rfl, hbytes⟩, hat'⟩ := (recognizes_parseWhole tag).1.sound hat hrun
  exact ⟨tag :: bytes, body, ⟨bytes, hbytes, rfl⟩, hat'⟩

theorem parseWhole_complete {before ahead body : List Byte} {tag : Byte} (hat : At input before ahead t)
    (helem : Element tag body ahead) :
    ∃ header t', parseWhole input tag t = some (t', .ok ()) ∧ At input (before ++ header) body t' := by
  obtain ⟨bytes, hbytes, rfl⟩ := helem
  obtain ⟨t', hrun, hat'⟩ := (recognizes_parseWhole tag).1.complete (a := ()) hat ⟨bytes, rfl, hbytes⟩
  exact ⟨tag :: bytes, t', hrun, hat'⟩

theorem parseLiteral_sound (hbytes : bytes.length < 2 ^ 64)
    (hat : At input before ahead t) (hrun : parseLiteral input bytes t = some (t', .ok u)) :
    ∃ rest, ahead = bytes ++ rest ∧ At input (before ++ bytes) rest t' := by
  obtain ⟨_, rest, rfl, rfl, hat'⟩ := (recognizes_parseLiteral hbytes).1.sound hat hrun
  exact ⟨rest, rfl, hat'⟩

theorem parseAlgorithmOidLength_sound (hsize : input.length < 2 ^ 64)
    (hrun : parseAlgorithmOidLength input (start input) = some (t', .ok len)) :
    ∃ found rest, found.length = len.toNat ∧ AtOid input found rest t' := by
  obtain ⟨_, t₁, hwhole, hrun⟩ := bind_eq_ok_iff.mp hrun
  obtain ⟨_, contents, helem, hat₁⟩ := parseWhole_sound (At.start hsize) hwhole
  obtain ⟨_, t₂, hver, hrun⟩ := bind_eq_ok_iff.mp hrun
  obtain ⟨ahead, rfl, hat₂⟩ := parseLiteral_sound (by decide) hat₁ hver
  obtain ⟨alg, t₃, halg, hrun⟩ := bind_eq_ok_iff.mp hrun
  obtain ⟨_, ahead, rfl, ⟨length, rfl, hlen, hle⟩, hat₃⟩ :=
    (recognizes_derParserGetLengthOfTag 0x30#8).1.sound hat₂ halg
  obtain ⟨_, ahead, rfl, ⟨oidLength, rfl, hoidLen, hfits⟩, hat₄⟩ :=
    (recognizes_derParserGetLengthOfTag 0x06#8).1.sound hat₃ hrun
  have hlength₄ := hat₄.length_eq
  obtain ⟨found, rest, rfl, hfound⟩ := split_of_le hat₄ len.toNat (by omega)
  refine ⟨found, rest, hfound, ⟨alg.toNat, length, 0x06#8 :: oidLength ++ found, ?_, hlen, ?_, ?_⟩, _, hat₄⟩
  · simpa using helem
  · simpa using hle
  · exact ⟨oidLength, hfound ▸ hoidLen, rfl⟩

variable {found rest : List Byte}

theorem parseAlgorithmOidLength_complete (hsize : input.length < 2 ^ 64)
    (h : HasAlgorithm found rest input) : ∃ t' len, parseAlgorithmOidLength input (start input) = some (t', .ok len) ∧
      found.length = len.toNat ∧ AtOid input found rest t' := by
  obtain ⟨alg, length, _, helem, hlength, hle, oidLength, hoidLen, rfl⟩ := id h
  obtain ⟨_, t₁, hwhole, hat₁⟩ := parseWhole_complete (At.start hsize) helem
  obtain ⟨t₂, hver, hat₂⟩ := (recognizes_parseLiteral (by decide)).1.complete (a := ()) hat₁ rfl
  have hsmall := hlength.lt
  have hfound := hoidLen.lt
  have halg : (ofNat 64 alg).toNat = alg := by
    rw [toNat_ofNat, Nat.mod_eq_of_lt (by omega)]
  have hlen : (ofNat 64 found.length).toNat = found.length := by
    rw [toNat_ofNat, Nat.mod_eq_of_lt (by omega)]
  obtain ⟨t₃, hseq, hat₃⟩ := (recognizes_derParserGetLengthOfTag 0x30#8).1.complete (a := ofNat 64 alg) hat₂
    ⟨length, rfl, by rwa [halg], by rwa [halg]⟩
  rw [append_assoc (0x06#8 :: oidLength)] at hat₃
  obtain ⟨t₄, hoid, hat₄⟩ := (recognizes_derParserGetLengthOfTag 0x06#8).1.complete (a := ofNat 64 found.length) hat₃
    ⟨oidLength, rfl, by rwa [hlen], by rw [hlen, length_append]; omega⟩
  refine ⟨t₄, ofNat 64 found.length, ?_, hlen.symm, h, _, hat₄⟩
  exact bind_eq_ok_iff.mpr ⟨(), t₁, hwhole, bind_eq_ok_iff.mpr ⟨(), t₂, hver, bind_eq_ok_iff.mpr ⟨_, t₃, hseq, hoid⟩⟩⟩

theorem total_parseAlgorithmOidLength : Total input (parseAlgorithmOidLength input) :=
  Total.bind (recognizes_parseWhole _) fun _ =>
    Total.bind (recognizes_parseLiteral (by decide)) fun _ =>
      Total.bind (recognizes_derParserGetLengthOfTag _) fun _ =>
        (recognizes_derParserGetLengthOfTag _).2

variable {oid : List Byte}

theorem parseAlgorithm_sound (hsize : input.length < 2 ^ 64)
    (hrun : parseAlgorithm input oid (start input) = some (t', .ok u)) :
    ∃ found rest before, found <+: oid ∧ HasAlgorithm found rest input ∧ At input before rest t' := by
  obtain ⟨len, mid, hlen, hobject⟩ := bind_eq_ok_iff.mp hrun
  obtain ⟨found, rest, hfound, halg, before, hat⟩ := parseAlgorithmOidLength_sound hsize hlen
  obtain ⟨taken, rest', heq, ⟨hfront, htaken⟩, hat'⟩ := (recognizes_parseObject oid len).sound hat hobject
  obtain ⟨rfl, rfl⟩ := List.append_inj heq (hfound.trans htaken.symm)
  exact ⟨found, rest, _, hfront, halg, hat'⟩

theorem parseAlgorithm_complete (hsize : input.length < 2 ^ 64)
    (h : HasAlgorithm found rest input) (hfront : found <+: oid) :
    ∃ t' before, parseAlgorithm input oid (start input) = some (t', .ok ()) ∧ At input before rest t' := by
  obtain ⟨mid, len, hlen, hfound, -, before, hat⟩ := parseAlgorithmOidLength_complete hsize h
  obtain ⟨t', hobject, hat'⟩ := (recognizes_parseObject oid len).complete (a := ()) hat ⟨hfront, hfound⟩
  exact ⟨t', _, bind_eq_ok_iff.mpr ⟨len, mid, hlen, hobject⟩, hat'⟩

theorem parseAlgorithm_eq_none_iff (hsize : input.length < 2 ^ 64) :
    parseAlgorithm input oid (start input) = none ↔ ∃ found rest, HasAlgorithm found rest input ∧
    oid.length < found.length := by
  constructor
  · intro hnone
    rcases bind_eq_none_iff.mp hnone with hnone | ⟨len, mid, hlen, hnone⟩
    · exact absurd hnone (total_parseAlgorithmOidLength (At.start hsize))
    · obtain ⟨found, rest, hfound, halg, before, hat⟩ := parseAlgorithmOidLength_sound hsize hlen
      have hlong := (parseObject_eq_none_iff hat (by rw [← hfound, length_append]; omega)).mp hnone
      exact ⟨found, rest, halg, hfound ▸ hlong⟩
  · rintro ⟨found, rest, halg, hlong⟩
    obtain ⟨mid, len, hlen, hfound, -, before, hat⟩ := parseAlgorithmOidLength_complete hsize halg
    refine bind_eq_none_iff.mpr (Or.inr ⟨len, mid, hlen, ?_⟩)
    exact (parseObject_eq_none_iff hat (by rw [← hfound, length_append]; omega)).mpr (hfound ▸ hlong)

def stripZero : List Byte → List Byte
  | [] => []
  | byte :: bytes => if byte = 0 then bytes else byte :: bytes

def RsaInteger (val bytes : List Byte) : Prop := ∃ content, Element 0x02#8 content bytes ∧ val = stripZero content

def RsaIntegers : List (List Byte) → List Byte → Prop
  | [], bytes => bytes = []
  | val :: vals, bytes => ∃ element rest, bytes = element ++ rest ∧ RsaInteger val element ∧ RsaIntegers vals rest

structure Pkcs8Rsa (found : List Byte) (vals : List (List Byte)) (input : List Byte) : Prop where
  exists_parts : ∃ octets key integers, HasAlgorithm found ([0x05#8, 0] ++ octets) input ∧ Element 0x04#8 key octets ∧
    Element 0x30#8 ([0x02#8, 1, 0] ++ integers) key ∧ RsaIntegers vals integers
  count : vals.length = 8

theorem peek_run {byte : Byte} (hat : At input before (byte :: ahead) t) :
    (peek input 0 : Parser Byte) t = some (t, .ok byte) := by
  have hends : (peek input (ofNat 64 0) : Parser Byte).Ends t (fun b t' => b = byte ∧ t' = t) fun _ => False :=
    hat.ends_peek (i := 0) rfl ⟨rfl, rfl⟩
  obtain ⟨t', r, hrun, hr⟩ := hends
  cases r with
  | error e => exact hr.elim
  | ok b =>
    obtain ⟨rfl, rfl⟩ := hr
    exact hrun

theorem derParserReadIntegerLength_run {before bytes content rest : List Byte}
    (hat : At input before (0x02#8 :: bytes ++ (content ++ rest)) t) (hbytes : LengthBytes content.length bytes) :
    ∃ t' len header, derParserReadIntegerLength input t = some (t', .ok len) ∧ len.toNat = (stripZero content).length ∧
      header ++ stripZero content = 0x02#8 :: bytes ++ content ∧ At input (before ++ header)
        (stripZero content ++ rest) t' := by
  have hsmall := hbytes.lt
  have hlen : (ofNat 64 content.length).toNat = content.length := by
    rw [toNat_ofNat, Nat.mod_eq_of_lt (by omega)]
  obtain ⟨mid, hhdr, hat₁⟩ := (recognizes_derParserGetLengthOfTag 0x02#8).1.complete (a := ofNat 64 content.length) hat
    ⟨bytes, rfl, by rwa [hlen], by rw [hlen, length_append]; omega⟩
  have hrest : ∀ t' len, (if 1 ≤ ofNat 64 content.length then do
        let val ← peek input 0
        if val = 0 then
          advance 1
          pure (ofNat 64 content.length - 1)
        else pure (ofNat 64 content.length)
      else pure (ofNat 64 content.length) : Parser U64) mid = some (t', .ok len) →
      derParserReadIntegerLength input t = some (t', .ok len) :=
        fun t' len hrun => bind_eq_ok_iff.mpr ⟨_, mid, hhdr, hrun⟩
  cases content with
  | nil => exact ⟨mid, 0, 0x02#8 :: bytes, hrest _ _ rfl, rfl, rfl, hat₁⟩
  | cons byte content =>
    have hpos : 1 ≤ ofNat 64 (byte :: content).length := by
      rw [BitVec.le_def, hlen]
      exact Nat.succ_le_succ (Nat.zero_le _)
    have hpeek := peek_run hat₁
    by_cases hzero : byte = 0
    · obtain ⟨t', hadv, hat₂⟩ := @advance_run input 1 _ _ [byte] _ hat₁ rfl
      refine ⟨t', ofNat 64 (byte :: content).length - 1, 0x02#8 :: bytes ++ [byte], hrest _ _ ?_, ?_, ?_, ?_⟩
      · rw [if_pos hpos]
        refine bind_eq_ok_iff.mpr ⟨byte, mid, hpeek, ?_⟩
        rw [if_pos hzero]
        exact bind_eq_ok_iff.mpr ⟨(), t', hadv, rfl⟩
      · rw [stripZero, if_pos hzero, BitVec.toNat_sub_of_le hpos, hlen]
        rfl
      · simp [stripZero, hzero]
      · rw [stripZero, if_pos hzero, ← append_assoc]
        exact hat₂
    · refine ⟨mid, ofNat 64 (byte :: content).length, 0x02#8 :: bytes, hrest _ _ ?_, ?_, ?_, ?_⟩
      · rw [if_pos hpos]
        refine bind_eq_ok_iff.mpr ⟨byte, mid, hpeek, ?_⟩
        rw [if_neg hzero]
        rfl
      · rw [stripZero, if_neg hzero, hlen]
      · rw [stripZero, if_neg hzero]
      · rw [stripZero, if_neg hzero]
        exact hat₁

theorem parseRsaVal_run {before content bytes rest : List Byte} (hat : At input before (bytes ++ rest) t)
    (helem : Element 0x02#8 content bytes) :
    ∃ t', parseRsaVal input t = some (t', .ok (stripZero content)) ∧ At input (before ++ bytes) rest t' := by
  obtain ⟨length, hlength, rfl⟩ := helem
  rw [append_assoc] at hat
  obtain ⟨mid, len, header, hread, hlen, hhdr, hat₁⟩ := derParserReadIntegerLength_run hat hlength
  obtain ⟨t', htake, hat₂⟩ := takeBytes_run hat₁ hlen.symm
  refine ⟨t', bind_eq_ok_iff.mpr ⟨len, mid, hread, htake⟩, ?_⟩
  rwa [append_assoc, hhdr] at hat₂

theorem parseRsaVal_header (hat : At input before ahead t)
    (hhdr : derParserGetLengthOfTag input 0x02#8 t = some (t', .ok len)) :
    ∃ content bytes rest, ahead = bytes ++ rest ∧ Element 0x02#8 content bytes := by
  obtain ⟨_, ahead, rfl, ⟨bytes, rfl, hbytes, hle⟩, hat'⟩ :=
    (recognizes_derParserGetLengthOfTag 0x02#8).1.sound hat hhdr
  have hlen := hat'.length_eq
  obtain ⟨content, rest, rfl, hcontent⟩ := split_of_le hat' len.toNat (by omega)
  exact ⟨content, 0x02#8 :: bytes ++ content, rest, by rw [append_assoc], bytes, hcontent ▸ hbytes, rfl⟩

theorem recognizes_parseRsaVal :
    Recognizes input (parseRsaVal input) (fun val _ taken _ => RsaInteger val taken) ∧
    Total input (parseRsaVal input) := by
  refine ⟨⟨?_, ?_⟩, ?_⟩
  · intro before ahead t t' val hat hrun
    obtain ⟨_, _, hread, -⟩ := bind_eq_ok_iff.mp hrun
    obtain ⟨len, mid, hhdr, -⟩ := bind_eq_ok_iff.mp hread
    obtain ⟨content, bytes, rest, rfl, helem⟩ := parseRsaVal_header hat hhdr
    obtain ⟨t'', hrun', hat'⟩ := parseRsaVal_run hat helem
    cases hrun.symm.trans hrun'
    exact ⟨bytes, rest, rfl, ⟨content, helem, rfl⟩, hat'⟩
  · rintro before bytes rest t _ hat ⟨content, helem, rfl⟩
    exact parseRsaVal_run hat helem
  · intro before ahead t hat hnone
    have hhdr : ∃ len mid, derParserGetLengthOfTag input 0x02#8 t = some (mid, .ok len) := by
      rcases bind_eq_none_iff.mp hnone with hnone | ⟨_, _, hread, -⟩
      · rcases bind_eq_none_iff.mp hnone with hnone | ⟨len, mid, hhdr, -⟩
        · exact absurd hnone ((recognizes_derParserGetLengthOfTag 0x02#8).2 hat)
        · exact ⟨len, mid, hhdr⟩
      · obtain ⟨len, mid, hhdr, -⟩ := bind_eq_ok_iff.mp hread
        exact ⟨len, mid, hhdr⟩
    obtain ⟨len, mid, hhdr⟩ := hhdr
    obtain ⟨content, bytes, rest, rfl, helem⟩ := parseRsaVal_header hat hhdr
    obtain ⟨t', hrun, -⟩ := parseRsaVal_run hat helem
    rw [hrun] at hnone
    cases hnone

theorem recognizes_parseRsaVals (count : Nat) :
    Recognizes input (parseRsaVals input count) (fun vals _ taken _ => RsaIntegers vals taken ∧ vals.length = count) ∧
      Total input (parseRsaVals input count) := by
  induction count with
  | zero =>
    refine ⟨(recognizes_pure []).congr fun vals before taken rest => ?_, total_pure []⟩
    constructor
    · rintro ⟨hvals, hcnt⟩
      obtain rfl := List.eq_nil_of_length_eq_zero hcnt
      exact ⟨rfl, hvals⟩
    · rintro ⟨rfl, rfl⟩
      exact ⟨rfl, rfl⟩
  | succ count ih =>
    have hval := @recognizes_parseRsaVal input
    refine ⟨(hval.1.bind fun val => ih.1.bind fun vals => recognizes_pure (val :: vals)).congr fun vals before taken
      rest => ?_, Total.bind hval fun val => Total.bind ih fun vals => total_pure _⟩
    constructor
    · rintro ⟨hvals, hcnt⟩
      obtain ⟨val, vals, rfl⟩ := List.exists_cons_of_length_eq_add_one hcnt
      obtain ⟨element, ahead, rfl, helem, hrest⟩ := hvals
      exact ⟨val, element, ahead, rfl, helem, vals, ahead, [], by simp, ⟨hrest, by simpa using hcnt⟩, rfl, rfl⟩
    · rintro ⟨val, element, ahead, rfl, helem, vals, taken, _, rfl, ⟨hvals, hcnt⟩, rfl, rfl⟩
      exact ⟨⟨element, taken, by simp, helem, hvals⟩, by rw [List.length_cons, hcnt]⟩

theorem cursor_atEnd (hat : At input before ahead t) : (t.cursor.remain == 0) ↔ ahead = [] := by
  rw [beq_iff_eq, ← BitVec.toNat_inj, hat.remain]
  exact List.length_eq_zero_iff

theorem pkcs8rsa_ok_iff (hsize : input.length < 2 ^ 64) (data : List Byte) :
    (∃ t, sspKeyparserParseKeydataPkcs8rsa input (start input) = some (t, .ok data)) ↔
      ∃ found vals, Pkcs8Rsa found vals input ∧ found <+: rsaKeyOid ∧ data = rsaKeyData vals := by
  constructor
  · rintro ⟨t, hrun⟩
    obtain ⟨_, t₁, halg, hrun⟩ := bind_eq_ok_iff.mp hrun
    obtain ⟨found, ahead, before, hfront, hhas, hat₁⟩ := parseAlgorithm_sound hsize halg
    obtain ⟨_, t₂, hnull, hrun⟩ := bind_eq_ok_iff.mp hrun
    obtain ⟨octets, rfl, hat₂⟩ := parseLiteral_sound (by decide) hat₁ hnull
    obtain ⟨_, t₃, hoctets, hrun⟩ := bind_eq_ok_iff.mp hrun
    obtain ⟨_, key, hkey, hat₃⟩ := parseWhole_sound hat₂ hoctets
    obtain ⟨_, t₄, hseq, hrun⟩ := bind_eq_ok_iff.mp hrun
    obtain ⟨_, contents, hcontents, hat₄⟩ := parseWhole_sound hat₃ hseq
    obtain ⟨_, t₅, hver, hrun⟩ := bind_eq_ok_iff.mp hrun
    obtain ⟨integers, rfl, hat₅⟩ := parseLiteral_sound (by decide) hat₄ hver
    obtain ⟨vals, t₆, hvals, hrun⟩ := bind_eq_ok_iff.mp hrun
    obtain ⟨taken, rest, rfl, ⟨hintegers, hcnt⟩, hat₆⟩ := (recognizes_parseRsaVals 8).1.sound hat₅ hvals
    obtain ⟨c, t₇, hcursor, hrun⟩ := bind_eq_ok_iff.mp hrun
    cases hcursor
    obtain ⟨_, t₈, hend, hdata⟩ := bind_eq_ok_iff.mp hrun
    obtain ⟨rfl, hend⟩ := expect_eq_ok_iff.mp hend
    cases hdata
    obtain rfl := (cursor_atEnd hat₆).mp hend
    rw [append_nil] at hcontents
    exact ⟨found, vals, ⟨⟨octets, key, taken, hhas, hkey, hcontents, hintegers⟩, hcnt⟩, hfront, rfl⟩
  · rintro ⟨found, vals, ⟨⟨octets, key, integers, hhas, hkey, hcontents, hintegers⟩, hcnt⟩, hfront, rfl⟩
    obtain ⟨t₁, before, halg, hat₁⟩ := parseAlgorithm_complete hsize hhas hfront
    obtain ⟨t₂, hnull, hat₂⟩ := (recognizes_parseLiteral (by decide)).1.complete (a := ()) hat₁ rfl
    obtain ⟨_, t₃, hoctets, hat₃⟩ := parseWhole_complete hat₂ hkey
    obtain ⟨_, t₄, hseq, hat₄⟩ := parseWhole_complete hat₃ hcontents
    obtain ⟨t₅, hver, hat₅⟩ := (recognizes_parseLiteral (by decide)).1.complete (a := ()) hat₄ rfl
    rw [← append_nil integers] at hat₅
    obtain ⟨t₆, hvals, hat₆⟩ := (recognizes_parseRsaVals 8).1.complete hat₅ ⟨hintegers, hcnt⟩
    refine ⟨t₆, bind_eq_ok_iff.mpr ⟨(), t₁, halg,
      bind_eq_ok_iff.mpr ⟨(), t₂, hnull, bind_eq_ok_iff.mpr ⟨(), t₃, hoctets,
      bind_eq_ok_iff.mpr ⟨(), t₄, hseq, bind_eq_ok_iff.mpr ⟨(), t₅, hver, bind_eq_ok_iff.mpr ⟨vals, t₆, hvals,
        bind_eq_ok_iff.mpr ⟨t₆.cursor, t₆, rfl, bind_eq_ok_iff.mpr ⟨(), t₆, ?_, rfl⟩⟩⟩⟩⟩⟩⟩⟩⟩
    exact expect_eq_ok_iff.mpr ⟨rfl, (cursor_atEnd hat₆).mpr rfl⟩

def Parameters (rest : List Byte) : Option (List Byte) → List Byte → Prop
  | none, bytes => bytes = []
  | some oid, bytes => ∃ len length element, bytes = 0xa0#8 :: length ++ element ∧ LengthBytes len length ∧
      len ≤ (element ++ rest).length ∧ Element 0x06#8 oid element

def PublicKey (point bytes : List Byte) : Prop :=
  ∃ bits, Element 0xa1#8 bits bytes ∧ Element 0x03#8 ([0x00#8, 0x04] ++ point) bits ∧ point.length = 64

def Pkcs8Ec (found : List Byte) (params : Option (List Byte)) (tail input : List Byte) : Prop :=
  ∃ curve octets key privateKey d parameters publicKey point, HasAlgorithm found (curve ++ octets) input ∧
    Element 0x06#8 eccP256Oid curve ∧ tail = eccP256Oid ++ octets ∧ Element 0x04#8 key octets ∧
    Element 0x30#8 ([0x02#8, 1, 1] ++ (privateKey ++ (parameters ++ publicKey))) key ∧ Element 0x04#8 d privateKey ∧
    d.length = 32 ∧ Parameters publicKey params parameters ∧ PublicKey point publicKey

theorem parseNamedCurve_sound {pos : U64} (hat : At input before ahead t)
    (hrun : parseNamedCurve input t = some (t', .ok pos)) :
    ∃ curve rest, ahead = curve ++ rest ∧ Element 0x06#8 eccP256Oid curve ∧ input.drop pos.toNat = eccP256Oid ++ rest ∧
      pos.toNat ≤ (before ++ curve).length ∧ At input (before ++ curve) rest t' := by
  obtain ⟨len, t₁, hlen, hrun⟩ := bind_eq_ok_iff.mp hrun
  obtain ⟨_, ahead, rfl, ⟨bytes, rfl, hbytes, -⟩, hat₁⟩ := (recognizes_derParserGetLengthOfTag 0x06#8).1.sound hat hlen
  obtain ⟨c, t₂, hcursor, hrun⟩ := bind_eq_ok_iff.mp hrun
  cases hcursor
  obtain ⟨_, t₃, hrequire, hrest⟩ := bind_eq_ok_iff.mp hrun
  obtain ⟨rfl, height⟩ := expect_eq_ok_iff.mp hrequire
  obtain rfl : len = 8 := eq_of_beq height
  obtain ⟨_, t₄, hobject, hpos⟩ := bind_eq_ok_iff.mp hrest
  cases hpos
  obtain ⟨taken, rest, rfl, ⟨hfront, htaken⟩, hat₂⟩ := (recognizes_parseObject eccP256Oid 8).sound hat₁ hobject
  obtain rfl : taken = eccP256Oid := hfront.eq_of_length htaken
  refine ⟨0x06#8 :: bytes ++ eccP256Oid, rest, by simp, ⟨bytes, hbytes, rfl⟩, ?_, ?_, by rwa [← append_assoc]⟩
  · rw [hat₁.pos, hat₂.split, append_assoc, drop_left]
  · rw [hat₁.pos]
    simp only [length_append]
    omega

theorem parseNamedCurve_complete {before curve rest : List Byte} (hat : At input before (curve ++ rest) t)
    (hcurve : Element 0x06#8 eccP256Oid curve) :
    ∃ t' pos, parseNamedCurve input t = some (t', .ok pos) ∧ input.drop pos.toNat = eccP256Oid ++ rest ∧
      At input (before ++ curve) rest t' := by
  obtain ⟨bytes, hbytes, rfl⟩ := hcurve
  rw [append_assoc] at hat
  obtain ⟨t₁, hlen, hat₁⟩ := (recognizes_derParserGetLengthOfTag 0x06#8).1.complete (a := 8) hat
    ⟨bytes, rfl, hbytes, by rw [length_append]; exact Nat.le_add_right 8 _⟩
  obtain ⟨t₂, hobject, hat₂⟩ := (recognizes_parseObject eccP256Oid 8).complete (a := ()) hat₁ ⟨List.prefix_rfl, rfl⟩
  refine ⟨t₂, t₁.cursor.pos, ?_, ?_, by rwa [append_assoc] at hat₂⟩
  · exact bind_eq_ok_iff.mpr ⟨8, t₁, hlen, bind_eq_ok_iff.mpr ⟨t₁.cursor, t₁, rfl,
      bind_eq_ok_iff.mpr ⟨(), t₁, rfl, bind_eq_ok_iff.mpr ⟨(), t₂, hobject, rfl⟩⟩⟩⟩
  · rw [hat₁.pos, hat₁.split, drop_left]

theorem recognizes_parsePrivateKey :
    Recognizes input (parsePrivateKey input) fun d _ taken _ => Element 0x04#8 d taken ∧ d.length = 32 := by
  constructor
  · intro before ahead t t' d hat hrun
    obtain ⟨len, t₁, hlen, hrun⟩ := bind_eq_ok_iff.mp hrun
    obtain ⟨_, ahead, rfl, ⟨bytes, rfl, hbytes, -⟩, hat₁⟩ :=
      (recognizes_derParserGetLengthOfTag 0x04#8).1.sound hat hlen
    obtain ⟨_, t₂, hrequire, htake⟩ := bind_eq_ok_iff.mp hrun
    obtain ⟨rfl, hsame⟩ := expect_eq_ok_iff.mp hrequire
    obtain rfl : len = 32 := eq_of_beq hsame
    obtain ⟨_, rest, rfl, ⟨rfl, hd⟩, hat₂⟩ := (recognizes_takeBytes 32).sound hat₁ htake
    refine ⟨0x04#8 :: bytes ++ d, rest, by simp, ⟨⟨bytes, ?_, rfl⟩, hd⟩, by rwa [← append_assoc]⟩
    rwa [hd]
  · rintro before _ rest t d hat ⟨⟨bytes, hbytes, rfl⟩, hd⟩
    rw [append_assoc] at hat
    obtain ⟨t₁, hlen, hat₁⟩ := (recognizes_derParserGetLengthOfTag 0x04#8).1.complete (a := 32) hat
      ⟨bytes, rfl, by rwa [hd] at hbytes, by rw [length_append, hd]; exact Nat.le_add_right 32 _⟩
    obtain ⟨t₂, htake, hat₂⟩ := (recognizes_takeBytes 32).complete hat₁ ⟨rfl, hd⟩
    refine ⟨t₂, ?_, by rwa [append_assoc] at hat₂⟩
    exact bind_eq_ok_iff.mpr ⟨32, t₁, hlen, bind_eq_ok_iff.mpr ⟨(), t₁, rfl, htake⟩⟩

variable (pos : U64)

theorem parseParameters_some (hat : At input before (0xa0#8 :: ahead) t) :
    ∃ mid, At input (before ++ [0xa0#8]) ahead mid ∧ parseParameters input pos t = (do
      let _substrLen ← derParserGetLength input
      let curveOidLen ← derParserReadOidLength input
      require (curveOidLen == curveOidLen)
      parseObject input (input.drop pos.toNat) curveOidLen : Parser Unit) mid := by
  obtain ⟨mid, hadv, hat'⟩ := @advance_run input 1 _ _ [0xa0#8] _ hat rfl
  have hremain : ¬t.cursor.remain = 0 := by
    intro hzero
    have hlen := hat.remain
    rw [hzero] at hlen
    cases hlen
  refine ⟨mid, hat', ?_⟩
  rw [parseParameters, bind_of_ok (show cursor t = some (t, .ok t.cursor) from rfl), if_neg hremain,
    bind_of_ok (peek_run hat), if_pos rfl, bind_of_ok hadv]

theorem parseParameters_none (hat : At input before ahead t)
    (hhead : ∀ rest, ahead ≠ 0xa0#8 :: rest) : parseParameters input pos t = some (t, .ok ()) := by
  cases ahead with
  | nil =>
    have hremain : t.cursor.remain = 0 := eq_of_toNat_eq hat.remain
    rw [parseParameters, bind_of_ok (show cursor t = some (t, .ok t.cursor) from rfl), if_pos hremain]
    rfl
  | cons byte ahead =>
    have hremain : ¬t.cursor.remain = 0 := by
      intro hzero
      have hlen := hat.remain
      rw [hzero] at hlen
      cases hlen
    have hbyte : ¬byte = 0xa0#8 := fun hbyte => hhead ahead (hbyte ▸ rfl)
    rw [parseParameters, bind_of_ok (show cursor t = some (t, .ok t.cursor) from rfl), if_neg hremain,
      bind_of_ok (peek_run hat), if_neg hbyte]
    rfl

theorem parseParameters_sound {pos : U64}
    (hat : At input before ahead t) (hrun : parseParameters input pos t = some (t', .ok u)) :
    ∃ params taken rest, ahead = taken ++ rest ∧ Parameters rest params taken ∧
      (∀ oid ∈ params, oid <+: input.drop pos.toNat) ∧ At input (before ++ taken) rest t' := by
  by_cases hhead : ∃ rest, ahead = 0xa0#8 :: rest
  · obtain ⟨ahead, rfl⟩ := hhead
    obtain ⟨mid, hat₁, hsame⟩ := parseParameters_some pos hat
    rw [hsame] at hrun
    obtain ⟨len, t₁, hlen, hrun⟩ := bind_eq_ok_iff.mp hrun
    obtain ⟨length, ahead, rfl, ⟨hlength, hle⟩, hat₂⟩ := recognizes_derParserGetLength.1.sound hat₁ hlen
    obtain ⟨oidLen, t₂, hoidLen, hrun⟩ := bind_eq_ok_iff.mp hrun
    obtain ⟨_, ahead, rfl, ⟨bytes, rfl, hbytes, -⟩, hat₃⟩ :=
      (recognizes_derParserGetLengthOfTag 0x06#8).1.sound hat₂ hoidLen
    obtain ⟨_, t₃, hrequire, hobject⟩ := bind_eq_ok_iff.mp hrun
    obtain ⟨rfl, -⟩ := expect_eq_ok_iff.mp hrequire
    obtain ⟨oid, rest, rfl, ⟨hfront, hoid⟩, hat₄⟩ := (recognizes_parseObject _ oidLen).sound hat₃ hobject
    refine ⟨some oid, 0xa0#8 :: length ++ (0x06#8 :: bytes ++ oid), rest, by simp, ?_, ?_, by simpa using hat₄⟩
    · exact ⟨len.toNat, length, _, rfl, hlength, by simpa using hle, bytes, hoid ▸ hbytes, rfl⟩
    · rintro _ ⟨⟩
      exact hfront
  · rw [parseParameters_none pos hat fun rest heq => hhead ⟨rest, heq⟩] at hrun
    cases hrun
    exact ⟨none, [], ahead, rfl, rfl, nofun, by rwa [append_nil]⟩

theorem parseParameters_complete {before taken rest : List Byte} {params : Option (List Byte)}
    (hat : At input before (taken ++ rest) t) (hparams : Parameters rest params taken)
    (hfront : ∀ oid ∈ params, oid <+: input.drop pos.toNat) (hhead : ∀ tail, rest ≠ 0xa0#8 :: tail) :
    ∃ t', parseParameters input pos t = some (t', .ok ()) ∧ At input (before ++ taken) rest t' := by
  cases params with
  | none =>
    obtain rfl : taken = [] := hparams
    exact ⟨t, parseParameters_none pos hat hhead, by rwa [append_nil]⟩
  | some oid =>
    obtain ⟨len, length, _, rfl, hlength, hle, bytes, hbytes, rfl⟩ := hparams
    have hsmall := hlength.lt
    have hoid := hbytes.lt
    have hlen : (ofNat 64 len).toNat = len := by
      rw [toNat_ofNat, Nat.mod_eq_of_lt (by omega)]
    have hoidLen : (ofNat 64 oid.length).toNat = oid.length := by
      rw [toNat_ofNat, Nat.mod_eq_of_lt (by omega)]
    simp only [List.cons_append, append_assoc] at hat hle
    obtain ⟨mid, hat₁, hsame⟩ := parseParameters_some pos hat
    obtain ⟨t₁, hgetLen, hat₂⟩ := recognizes_derParserGetLength.1.complete (a := ofNat 64 len) hat₁
      ⟨by rwa [hlen], by rwa [hlen]⟩
    obtain ⟨t₂, hgetOid, hat₃⟩ := (recognizes_derParserGetLengthOfTag 0x06#8).1.complete (a := ofNat 64 oid.length) hat₂
      ⟨bytes, rfl, by rwa [hoidLen], by rw [hoidLen, length_append]; omega⟩
    obtain ⟨t₃, hobject, hat₄⟩ := (recognizes_parseObject (input.drop pos.toNat) (ofNat 64 oid.length)).complete
      (a := ()) hat₃ ⟨hfront oid rfl, hoidLen.symm⟩
    refine ⟨t₃, ?_, by simpa using hat₄⟩
    rw [hsame]
    exact bind_eq_ok_iff.mpr ⟨_, t₁, hgetLen, bind_eq_ok_iff.mpr ⟨_, t₂, hgetOid,
      bind_eq_ok_iff.mpr ⟨(), t₂, expect_eq_ok_iff.mpr ⟨rfl, beq_self_eq_true _⟩, hobject⟩⟩⟩

theorem copy_run {before skipped bytes rest : List Byte} {i len : U64}
    (hat : At input before (skipped ++ bytes ++ rest) t) (hi : i = ofNat 64 skipped.length)
    (hlen : bytes.length = len.toNat) : (copy input i len : Parser (List Byte)) t = some (t, .ok bytes) := by
  have hends : (copy input i len : Parser (List Byte)).Ends t (fun a t' => a = bytes ∧ t' = t) fun _ => False :=
    hat.ends_copy skipped bytes hi hlen.symm ⟨rfl, rfl⟩
  obtain ⟨t', r, hrun, hr⟩ := hends
  cases r with
  | error e => exact hr.elim
  | ok a =>
    obtain ⟨rfl, rfl⟩ := hr
    exact hrun

theorem copy_point {before point : List Byte} (hat : At input before point t) (hpoint : point.length = 64) :
    (copy input 0 32 : Parser (List Byte)) t = some (t, .ok (point.take 32)) ∧
      (copy input 32 32 : Parser (List Byte)) t = some (t, .ok (point.drop 32)) := by
  have hx : (point.take 32).length = 32 := by rw [List.length_take, hpoint]; rfl
  have hy : (point.drop 32).length = 32 := by rw [List.length_drop, hpoint]
  constructor
  · refine @copy_run input t before [] (point.take 32) (point.drop 32) 0 32 ?_ rfl hx
    rwa [List.nil_append, take_append_drop]
  · refine @copy_run input t before (point.take 32) (point.drop 32) [] 32 32 ?_ (by rw [hx]; rfl) hy
    rwa [append_nil, take_append_drop]

theorem remain_eq_64_iff (hat : At input before ahead t) : (t.cursor.remain == 64) ↔ ahead.length = 64 := by
  rw [beq_iff_eq, ← BitVec.toNat_inj, hat.remain]
  rfl

theorem parsePublicKey_sound {point : List Byte × List Byte}
    (hat : At input before ahead t) (hrun : parsePublicKey input t = some (t', .ok point)) :
    PublicKey (point.1 ++ point.2) ahead ∧ point.1.length = 32 := by
  obtain ⟨_, t₁, hwhole, hrun⟩ := bind_eq_ok_iff.mp hrun
  obtain ⟨_, bits, hbits, hat₁⟩ := parseWhole_sound hat hwhole
  obtain ⟨_, t₂, hstring, hrun⟩ := bind_eq_ok_iff.mp hrun
  obtain ⟨_, contents, hcontents, hat₂⟩ := parseWhole_sound hat₁ hstring
  obtain ⟨_, t₃, hliteral, hrun⟩ := bind_eq_ok_iff.mp hrun
  obtain ⟨ahead, rfl, hat₃⟩ := parseLiteral_sound (by decide) hat₂ hliteral
  obtain ⟨c, t₄, hcursor, hrun⟩ := bind_eq_ok_iff.mp hrun
  cases hcursor
  obtain ⟨_, t₅, hrequire, hcopies⟩ := bind_eq_ok_iff.mp hrun
  obtain ⟨rfl, hremain⟩ := expect_eq_ok_iff.mp hrequire
  have hpoint := (remain_eq_64_iff hat₃).mp hremain
  obtain ⟨hx, hy⟩ := copy_point hat₃ hpoint
  obtain ⟨x, t₆, hcopy, hcopies⟩ := bind_eq_ok_iff.mp hcopies
  cases hcopy.symm.trans hx
  obtain ⟨y, t₇, hcopy, hpure⟩ := bind_eq_ok_iff.mp hcopies
  cases hcopy.symm.trans hy
  cases hpure
  rw [take_append_drop, List.length_take, hpoint]
  exact ⟨⟨bits, hbits, hcontents, hpoint⟩, rfl⟩

theorem parsePublicKey_complete {before ahead point : List Byte} (hat : At input before ahead t)
    (hkey : PublicKey point ahead) : ∃ t', parsePublicKey input t = some (t', .ok (point.take 32, point.drop 32)) := by
  obtain ⟨bits, hbits, hcontents, hpoint⟩ := hkey
  obtain ⟨_, t₁, hwhole, hat₁⟩ := parseWhole_complete hat hbits
  obtain ⟨_, t₂, hstring, hat₂⟩ := parseWhole_complete hat₁ hcontents
  obtain ⟨t₃, hliteral, hat₃⟩ := (recognizes_parseLiteral (by decide)).1.complete (a := ()) hat₂ rfl
  obtain ⟨hx, hy⟩ := copy_point hat₃ hpoint
  refine ⟨t₃, bind_eq_ok_iff.mpr ⟨(), t₁, hwhole,
    bind_eq_ok_iff.mpr ⟨(), t₂, hstring, bind_eq_ok_iff.mpr ⟨(), t₃, hliteral,
    bind_eq_ok_iff.mpr ⟨t₃.cursor, t₃, rfl, bind_eq_ok_iff.mpr ⟨(), t₃, ?_, bind_eq_ok_iff.mpr ⟨_, t₃, hx,
      bind_eq_ok_iff.mpr ⟨_, t₃, hy, rfl⟩⟩⟩⟩⟩⟩⟩⟩
  exact expect_eq_ok_iff.mpr ⟨rfl, (remain_eq_64_iff hat₃).mpr hpoint⟩

end ExynosHal.Strongbox.Pkcs8
