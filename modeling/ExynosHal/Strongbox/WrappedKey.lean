import ExynosHal.Library.ByteCursor
import ExynosHal.Strongbox.Params

/-! # Fields of a wrapped key

`ssp_keyparser_parse_wrappedkey` cuts a wrapped key into its fields. The pointer and the length that it moves
along are a cursor of machine words; the blobs that it returns point into the input, and the initialization
vector and the tag go to buffers of 16 bytes. A length of the key description below three wraps, and the
cursor goes back.
-/

namespace ExynosHal.Strongbox.WrappedKey
open Library.BitString Library.ByteCursor Library.ByteCursor.Reader Params
open List (append_assoc append_inj exists_cons_of_length_pos length_append take_append_drop)
open BitVec (ofNat toNat_setWidth)

abbrev Parser := Reader KmError

def require : Bool → Parser Unit := expect .invalidArgument

def requireRemain (len : U64) : Parser Unit := do
  let c ← cursor
  require (len ≤ c.remain)

/-- `pos[i] == expected[0] && pos[i + 1] == expected[1]` and so on. -/
def requireBytes (input : List Byte) : Nat → List Byte → Parser Unit
  | _, [] => pure ()
  | i, byte :: expected => do
    let val ← peek input (ofNat 64 i)
    require (val == byte)
    requireBytes input (i + 1) expected

def lengthBytes (input : List Byte) (val : Byte) : Parser U64 :=
  if val < 0x80#8 then pure (val.setWidth 64)
  else if val = 0x81#8 then do
    requireRemain 1
    let low ← peek input 0
    advance 1
    pure (low.setWidth 64)
  else if val = 0x82#8 then do
    requireRemain 2
    let high ← peek input 0
    let low ← peek input 1
    advance 2
    pure (256 * high.setWidth 64 + low.setWidth 64)
  else do
    require false
    pure 0

def derParserGetLength (input : List Byte) : Parser U64 := do
  requireRemain 1
  let val ← peek input 0
  advance 1
  let retLen ← lengthBytes input val
  requireRemain retLen
  pure retLen

def derParserGetLengthOfTag (input : List Byte) (tag : Byte) : Parser U64 := do
  requireRemain 1
  requireBytes input 0 [tag]
  advance 1
  derParserGetLength input

def derParserReadOctstringLength (input : List Byte) : Parser U64 := derParserGetLengthOfTag input 0x04#8

def derParserReadSeqLength (input : List Byte) : Parser U64 := derParserGetLengthOfTag input 0x30#8

structure Blob where
  data : U64
  dataLength : U64
  deriving DecidableEq

structure Fields where
  encryptedTransportKey : Blob
  iv : List Byte
  keyDescription : Blob
  keyFormat : Byte
  authList : Blob
  encryptedKey : Blob
  tag : List Byte
  deriving DecidableEq

def parseVersion (input : List Byte) : Parser Unit := do
  requireRemain 3
  requireBytes input 0 [0x02#8, 1, 0]
  advance 3

/-- `encryptedTransportKey` and `encryptedKey`. -/
def parseOctstring (input : List Byte) : Parser Blob := do
  let dataLength ← derParserReadOctstringLength input
  let c ← cursor
  advance dataLength
  pure ⟨c.pos, dataLength⟩

def parseInitializationVector (input : List Byte) : Parser (List Byte) := do
  requireRemain 2
  requireBytes input 0 [0x04#8]
  let len ← peek input 1
  require (len ≤ 16#8)
  advance 2
  requireRemain (len.setWidth 64)
  let iv ← copy input 0 (len.setWidth 64)
  advance (len.setWidth 64)
  pure iv

/-- `key_description`, `key_format` and `auth_list`. -/
def parseKeyDescription (input : List Byte) : Parser (Blob × Byte × Blob) := do
  let start ← cursor
  let seqLen ← derParserReadSeqLength input
  requireRemain 3
  requireBytes input 0 [0x02#8, 1]
  let keyFormat ← peek input 2
  advance 3
  let c ← cursor
  advance (seqLen - 3)
  pure (⟨start.pos, 2 + seqLen⟩, keyFormat, ⟨c.pos, seqLen - 3⟩)

def parseTag (input : List Byte) : Parser (List Byte) := do
  let c ← cursor
  require (c.remain == 18)
  requireBytes input 0 [0x04#8, 16]
  copy input 2 16

def sspKeyparserParseWrappedkey (input : List Byte) : Parser Fields := do
  let seqLen ← derParserReadSeqLength input
  let c ← cursor
  require (c.remain == seqLen)
  parseVersion input
  let encryptedTransportKey ← parseOctstring input
  let iv ← parseInitializationVector input
  let (keyDescription, keyFormat, authList) ← parseKeyDescription input
  let encryptedKey ← parseOctstring input
  let tag ← parseTag input
  pure ⟨encryptedTransportKey, iv, keyDescription, keyFormat, authList, encryptedKey, tag⟩

def parseWrappedkey (wrappedkey : List Byte) : Option (Track × Except KmError Fields) :=
  sspKeyparserParseWrappedkey wrappedkey ⟨⟨0, ofNat 64 wrappedkey.length⟩, []⟩

/-- The forms of a length that the readers know. They need not be the shortest. -/
inductive LengthBytes : Nat → List Byte → Prop where
  | short (val : Byte) (h : val < 0x80#8) : LengthBytes val.toNat [val]
  | one (low : Byte) : LengthBytes low.toNat [0x81#8, low]
  | two (high low : Byte) : LengthBytes (256 * high.toNat + low.toNat) [0x82#8, high, low]

def Element (tag : Byte) (body bytes : List Byte) : Prop :=
  ∃ length, LengthBytes body.length length ∧ bytes = tag :: length ++ body

def Blob.stop (b : Blob) : Nat := b.data.toNat + b.dataLength.toNat

/-- The blobs are inside of the input, one behind the other, and the authorization list is inside of its element. -/
structure InBounds (input : List Byte) (fields : Fields) : Prop where
  transportKey : fields.encryptedTransportKey.stop ≤ fields.authList.data.toNat
  authList : fields.authList.stop ≤ fields.encryptedKey.data.toNat
  encryptedKey : fields.encryptedKey.stop ≤ input.length
  description : ∃ before body element after, input = before ++ element ++ after ∧ Element 0x30#8 body element ∧
    fields.keyDescription.data.toNat = before.length ∧ before.length ≤ fields.authList.data.toNat ∧
    fields.authList.stop ≤ before.length + element.length

/-- The parser stays inside of the input, its count is right at every cursor, and what it accepts is in bounds. -/
def Safe (input : List Byte) : Prop :=
  ∃ t r, parseWrappedkey input = some (t, r) ∧ (∀ c ∈ t.cursors, c.Consistent input) ∧
    ∀ fields, r = .ok fields → InBounds input fields

def ShortFromDescription (bytes : List Byte) : Prop :=
  ∃ description encryptedKey element tag, bytes = description ++ element ++ [0x04#8, 16] ++ tag ∧
    Element 0x30#8 [0x02#8, 1] description ∧ Element 0x04#8 encryptedKey element ∧ tag.length = 16

def ShortFromInitializationVector (bytes : List Byte) : Prop :=
  ∃ len iv rest, bytes = 0x04#8 :: len :: iv ++ rest ∧ iv.length = len.toNat ∧ len ≤ 16#8 ∧ ShortFromDescription rest

/-- A wrapped key with nothing but the two bytes `02 01` in its key description: the tag of the encrypted key
stands where the key format should. -/
def ShortDescription (input : List Byte) : Prop :=
  ∃ transportKey element rest, Element 0x30#8 ([0x02#8, 1, 0] ++ element ++ rest) input ∧
    Element 0x04#8 transportKey element ∧ ShortFromInitializationVector rest

theorem LengthBytes.lt {len : Nat} {bytes : List Byte} (h : LengthBytes len bytes) : len < 65536 := by
  cases h with
  | short val =>
    have := val.isLt
    omega
  | one low =>
    have := low.isLt
    omega
  | two high low =>
    have := high.isLt
    have := low.isLt
    omega

theorem LengthBytes.unique {len len' : Nat} {bytes bytes' rest rest' : List Byte} (h : LengthBytes len bytes)
    (h' : LengthBytes len' bytes') (heq : bytes ++ rest = bytes' ++ rest') :
    len = len' ∧ bytes = bytes' ∧ rest = rest' := by
  -- The first byte tells the forms apart.
  cases h with
  | short val hval =>
    cases h' with
    | short val' hval' => simp_all
    | one low => exact absurd ((List.cons.inj heq).1 ▸ hval) (by decide)
    | two high low => exact absurd ((List.cons.inj heq).1 ▸ hval) (by decide)
  | one low =>
    cases h' with
    | short val hval => exact absurd ((List.cons.inj heq).1 ▸ hval) (by decide)
    | one low' => simp_all
    | two high' low' => exact absurd (List.cons.inj heq).1 (by decide)
  | two high low =>
    cases h' with
    | short val hval => exact absurd ((List.cons.inj heq).1 ▸ hval) (by decide)
    | one low' => exact absurd (List.cons.inj heq).1 (by decide)
    | two high' low' => simp_all

variable {tag : Byte}

theorem Element.unique {body body' element element' rest rest' : List Byte} (h : Element tag body element)
    (h' : Element tag body' element') (heq : element ++ rest = element' ++ rest') :
    body = body' ∧ element = element' ∧ rest = rest' := by
  obtain ⟨length, hlength, rfl⟩ := h
  obtain ⟨length', hlen', rfl⟩ := h'
  rw [append_assoc, append_assoc] at heq
  obtain ⟨hlen, rfl, hrests⟩ := hlength.unique hlen' (List.cons.inj heq).2
  obtain ⟨rfl, rfl⟩ := append_inj hrests hlen
  exact ⟨rfl, rfl, rfl⟩

theorem Element.unique_body {body body' element : List Byte} (h : Element tag body element)
    (h' : Element tag body' element) : body = body' :=
  (h.unique h' (show element ++ [] = element ++ [] from rfl)).1

theorem shortDescription_iff {length body element rest : List Byte}
    (hlen : LengthBytes ([0x02#8, 1, 0] ++ (element ++ rest)).length length) (helem : Element 0x04#8 body element) :
    ShortDescription (0x30#8 :: length ++ ([0x02#8, 1, 0] ++ (element ++ rest))) ↔
    ShortFromInitializationVector rest := by
  constructor
  · rintro ⟨body', element', rest', houter, helem', hrest'⟩
    obtain ⟨length', hlen', heq⟩ := houter
    obtain ⟨-, -, hfields⟩ := hlen.unique hlen' (List.cons.inj heq).2
    rw [append_assoc] at hfields
    obtain ⟨-, -, rfl⟩ := helem.unique helem' (List.append_cancel_left hfields)
    exact hrest'
  · intro hrest
    exact ⟨body, element, rest, ⟨length, by simpa using hlen, by simp⟩, helem, hrest⟩

theorem shortFromInitializationVector_iff {len : Byte} {iv rest : List Byte} (hiv : iv.length = len.toNat)
    (hlen : len ≤ 16#8) : ShortFromInitializationVector (0x04#8 :: len :: iv ++ rest) ↔ ShortFromDescription rest := by
  constructor
  · rintro ⟨len', iv', rest', heq, hiv', -, hrest'⟩
    obtain ⟨rfl, hbytes⟩ := List.cons.inj (List.cons.inj heq).2
    obtain ⟨-, rfl⟩ := append_inj hbytes (hiv.trans hiv'.symm)
    exact hrest'
  · intro hrest
    exact ⟨len, iv, rest, rfl, hiv, hlen, hrest⟩

theorem not_shortFromDescription {body element rest : List Byte} (h : Element 0x30#8 body element)
    (hbody : body ≠ [0x02#8, 1]) : ¬ShortFromDescription (element ++ rest) := by
  rintro ⟨description, encryptedKey, key, tag, heq, hdesc, -, -⟩
  rw [append_assoc, append_assoc] at heq
  obtain ⟨hsame, -⟩ := h.unique hdesc heq
  exact hbody hsame

theorem shortFromDescription_iff {format : Byte} {length left taken rest : List Byte}
    (hsplit : [0x02#8, 1, format] = left ++ taken) (htaken : taken ≠ []) (hlen : LengthBytes left.length length) :
    ShortFromDescription (0x30#8 :: length ++ [0x02#8, 1, format] ++ rest) ↔
      ∃ encryptedKey element tag, taken ++ rest = element ++ ([0x04#8, 16] ++ tag) ∧
      Element 0x04#8 encryptedKey element ∧
        tag.length = 16 := by
  constructor
  · rintro ⟨description, encryptedKey, element, tag, heq, ⟨length', hlen', rfl⟩, helem, htag⟩
    simp only [append_assoc, List.cons_append] at heq
    obtain ⟨hleft, -, hbytes⟩ := hlen.unique hlen' (List.cons.inj heq).2
    have hboth : left ++ (taken ++ rest) = [0x02#8, 1] ++ (element ++ ([0x04#8, 16] ++ tag)) := by
      rw [← append_assoc, ← hsplit]
      simpa using hbytes
    obtain ⟨-, hrest⟩ := append_inj hboth hleft
    exact ⟨encryptedKey, element, tag, hrest, helem, htag⟩
  · rintro ⟨encryptedKey, element, tag, heq, helem, htag⟩
    obtain ⟨length', hlen', rfl⟩ := helem
    obtain ⟨first, taken, rfl⟩ := List.exists_cons_of_ne_nil htaken
    obtain ⟨rfl, hrest⟩ := List.cons.inj heq
    -- Of the three bytes only the key format can be the tag of an OCTET STRING.
    obtain ⟨rfl, rfl⟩ : left = [0x02#8, 1] ∧ taken = [] := by
      rcases left with - | ⟨a, - | ⟨b, - | ⟨c, left⟩⟩⟩ <;> simp_all
    exact ⟨0x30#8 :: length ++ [0x02#8, 1], encryptedKey, _, tag, by simp_all, ⟨length, hlen, rfl⟩,
      ⟨length', hlen', rfl⟩, htag⟩

section
variable {input before ahead : List Byte} {t : Track} {error : Track → Prop}

def Counted (input : List Byte) (t : Track) : Prop := ∀ c ∈ t.cursors, c.Consistent input

variable {ok : Unit → Track → Prop}

theorem ends_requireRemain (h : At input before ahead t) {len : U64}
    (hok : len.toNat ≤ ahead.length → ok () t) (herr : ahead.length < len.toNat → error t) :
    (requireRemain len).Ends t ok error := by
  refine .bind (ends_cursor (ends_expect (fun hle => ?_) fun hlt => ?_))
  · have hle := BitVec.le_def.mp (of_decide_eq_true hle)
    exact hok (h.remain ▸ hle)
  · have hlt := BitVec.lt_def.mp (BitVec.not_le.mp (of_decide_eq_false hlt))
    exact herr (h.remain ▸ hlt)

theorem ends_requireBytes (h : At input before ahead t) {i : Nat} {expected : List Byte}
    (hlen : i + expected.length ≤ ahead.length)
    (hok : ∀ rest, ahead.drop i = expected ++ rest → ok () t)
    (herr : (∀ rest, ahead.drop i ≠ expected ++ rest) → error t) : (requireBytes input i expected).Ends t ok error := by
  induction expected generalizing i with
  | nil => exact ends_pure (hok _ rfl)
  | cons byte expected ih =>
    rw [List.length_cons] at hlen
    have hi : i < ahead.length := by omega
    have hdrop : ahead.drop i = ahead[i] :: ahead.drop (i + 1) := List.drop_eq_getElem_cons hi
    refine .bind (h.ends_peek (List.getElem?_eq_getElem hi) (.bind (ends_expect (fun heq => ?_) fun hne => ?_)))
    · have hbyte : ahead[i] = byte := by simpa using heq
      refine ih (by omega) (fun rest hrest => hok rest ?_) fun hno => herr fun rest hrest => ?_
      · rw [hdrop, hbyte, hrest, List.cons_append]
      · rw [hdrop] at hrest
        exact hno rest (List.cons.inj hrest).2
    · refine herr fun rest hrest => ?_
      rw [hdrop] at hrest
      simp [(List.cons.inj hrest).1] at hne

theorem ends_lengthBytes {val : Byte} (h : At input (before ++ [val]) ahead t) {ok : U64 → Track → Prop}
    (hok : ∀ len bytes rest t', val :: ahead = bytes ++ rest → LengthBytes len.toNat bytes →
      At input (before ++ bytes) rest t' → ok len t')
    (herr : Counted input t → (∀ len bytes rest, val :: ahead = bytes ++ rest → ¬LengthBytes len bytes) → error t) :
    (lengthBytes input val).Ends t ok error := by
  -- An error, where the form that the first byte selects does not fit.
  have hnone : (val < 0x80#8 → False) → (∀ low rest, val = 0x81#8 → ahead ≠ low :: rest) →
      (∀ high low rest, val = 0x82#8 → ahead ≠ high :: low :: rest) → error t := by
    intro hshort hone htwo
    refine herr h.consistent fun len bytes rest heq hlength => ?_
    cases hlength with
    | short val' hval => exact hshort ((List.cons.inj heq).1 ▸ hval)
    | one low => exact hone low rest (List.cons.inj heq).1 (List.cons.inj heq).2
    | two high low => exact htwo high low rest (List.cons.inj heq).1 (List.cons.inj heq).2
  unfold lengthBytes
  split_ifs with hshort hone htwo
  · refine ends_pure (hok _ [val] ahead t rfl ?_ h)
    rw [toNat_setWidth, Nat.mod_eq_of_lt (by have := val.isLt; omega)]
    exact .short val hshort
  · subst hone
    refine .bind (ends_requireRemain h (fun hremain => ?_) fun hremain => hnone hshort ?_ ?_)
    · obtain ⟨low, rest, rfl⟩ := exists_cons_of_length_pos hremain
      refine .bind (h.ends_peek (i := 0) rfl (.bind (h.ends_advance [low] rfl fun t' hat => ?_)))
      refine ends_pure (hok _ [0x81#8, low] rest t' rfl ?_ (by simpa using hat))
      rw [toNat_setWidth, Nat.mod_eq_of_lt (by have := low.isLt; omega)]
      exact .one low
    · rintro low rest - rfl
      exact absurd hremain (by simp)
    · rintro high low rest heq
      exact absurd heq (by decide)
  · subst htwo
    refine .bind (ends_requireRemain h (fun hremain => ?_) fun hremain => hnone hshort ?_ ?_)
    · obtain ⟨high, rest, rfl⟩ := exists_cons_of_length_pos (Nat.lt_of_lt_of_le Nat.two_pos hremain)
      obtain ⟨low, rest, rfl⟩ := exists_cons_of_length_pos (Nat.le_of_succ_le_succ hremain)
      refine .bind (h.ends_peek (i := 0) rfl (.bind (h.ends_peek (i := 1) rfl ?_)))
      refine .bind (h.ends_advance [high, low] rfl fun t' hat => ?_)
      refine ends_pure (hok _ [0x82#8, high, low] rest t' rfl ?_ (by simpa using hat))
      have hlen : (256 * high.setWidth 64 + low.setWidth 64 : U64).toNat = 256 * high.toNat + low.toNat := by
        have := high.isLt
        have := low.isLt
        simp only [BitVec.toNat_add, BitVec.toNat_mul, toNat_setWidth, BitVec.reduceToNat]
        omega
      rw [hlen]
      exact .two high low
    · rintro low rest heq
      exact absurd heq (by decide)
    · rintro high low rest - rfl
      exact absurd hremain (by simp)
  · refine .bind (ends_expect nofun fun _ => hnone hshort ?_ ?_)
    · exact fun _ _ heq => absurd heq hone
    · exact fun _ _ _ heq => absurd heq htwo

variable (h : At input before ahead t)
include h

theorem ends_derParserGetLength {ok : U64 → Track → Prop}
    (hok : ∀ len bytes rest t', ahead = bytes ++ rest → LengthBytes len.toNat bytes → len.toNat ≤ rest.length →
      At input (before ++ bytes) rest t' → ok len t')
    (herr : ∀ t', Counted input t' → (∀ len bytes rest, ahead = bytes ++ rest → LengthBytes len bytes →
      rest.length < len) → error t') : (derParserGetLength input).Ends t ok error := by
  refine .bind (ends_requireRemain h (fun hremain => ?_) fun hremain => ?_)
  · obtain ⟨val, ahead, rfl⟩ := exists_cons_of_length_pos hremain
    refine .bind (h.ends_peek (i := 0) rfl (.bind (h.ends_advance [val] rfl fun t' hat => ?_)))
    refine .bind (ends_lengthBytes hat (fun len bytes rest t'' heq hbytes hat' => ?_) fun hcounted hno => ?_)
    · refine .bind (ends_requireRemain hat' (fun hle => ?_) fun hlt => ?_)
      · exact ends_pure (hok len bytes rest t'' heq hbytes hle hat')
      · refine herr t'' hat'.consistent fun len' bytes' rest' heq' hbytes' => ?_
        obtain ⟨rfl, -, rfl⟩ := hbytes.unique hbytes' (heq.symm.trans heq')
        exact hlt
    · exact herr t' hcounted fun len bytes rest heq hbytes => absurd hbytes (hno len bytes rest heq)
  · refine herr t h.consistent fun len bytes rest heq hbytes => ?_
    have hnil : ahead = [] := List.eq_nil_of_length_eq_zero (Nat.lt_one_iff.mp hremain)
    rw [hnil] at heq
    cases hbytes <;> simp at heq

theorem ends_derParserGetLengthOfTag {ok : U64 → Track → Prop}
    (hok : ∀ len bytes rest t', ahead = tag :: bytes ++ rest → LengthBytes len.toNat bytes → len.toNat ≤ rest.length →
      At input (before ++ tag :: bytes) rest t' → ok len t')
    (herr : ∀ t', Counted input t' → (∀ len bytes rest, ahead = tag :: bytes ++ rest → LengthBytes len bytes →
      rest.length < len) → error t') : (derParserGetLengthOfTag input tag).Ends t ok error := by
  refine .bind (ends_requireRemain h (fun hremain => ?_) fun hremain => ?_)
  · refine .bind (ends_requireBytes h (i := 0) (by simpa using hremain) (fun rest hrest => ?_) fun hno => ?_)
    · obtain rfl : ahead = tag :: rest := hrest
      refine .bind (h.ends_advance [tag] rfl fun t' hat => ?_)
      refine ends_derParserGetLength hat (fun len bytes rest' t'' heq hbytes hle hat' => ?_) fun t'' hcounted hno => ?_
      · exact hok len bytes rest' t'' (congrArg (tag :: ·) heq) hbytes hle (by simpa using hat')
      · exact herr t'' hcounted fun len bytes rest' heq hbytes => hno len bytes rest' (List.cons.inj heq).2 hbytes
    · exact herr t h.consistent fun len bytes rest heq => absurd heq (hno (bytes ++ rest))
  · refine herr t h.consistent fun len bytes rest heq => ?_
    rw [heq] at hremain
    exact absurd hremain (by simp)

theorem ends_parseVersion
    (hok : ∀ rest t', ahead = [0x02#8, 1, 0] ++ rest → At input (before ++ [0x02#8, 1, 0]) rest t' → ok () t')
    (herr : Counted input t → (∀ rest, ahead ≠ [0x02#8, 1, 0] ++ rest) → error t) :
    (parseVersion input).Ends t ok error := by
  refine .bind (ends_requireRemain h (fun hremain => ?_) fun hremain => herr h.consistent fun rest heq => ?_)
  · refine .bind (ends_requireBytes h (i := 0) (by simpa using hremain) (fun rest hrest => ?_) fun hno => ?_)
    · obtain rfl : ahead = [0x02#8, 1, 0] ++ rest := hrest
      exact h.ends_advance _ rfl fun t' hat => hok rest t' rfl hat
    · exact herr h.consistent hno
  · rw [heq] at hremain
    exact absurd hremain (by simp)

theorem ends_parseOctstring {ok : Blob → Track → Prop}
    (hok : ∀ blob body header rest t', ahead = header ++ body ++ rest → Element 0x04#8 body (header ++ body) →
      blob.data.toNat = (before ++ header).length → blob.dataLength.toNat = body.length →
      At input (before ++ header ++ body) rest t' → ok blob t')
    (herr : ∀ t', Counted input t' → (∀ body element rest, ahead = element ++ rest → ¬Element 0x04#8 body element) →
      error t') : (parseOctstring input).Ends t ok error := by
  refine .bind (ends_derParserGetLengthOfTag h (fun len bytes rest t' heq hbytes hle hat => ?_) fun t' hcounted hno =>
    ?_)
  · obtain ⟨body, rest, rfl, hbody⟩ : ∃ body rest', rest = body ++ rest' ∧ len.toNat = body.length :=
      ⟨rest.take len.toNat, rest.drop len.toNat, (take_append_drop _ _).symm, by simp [hle]⟩
    refine .bind (ends_cursor (.bind (hat.ends_advance body hbody fun t'' hat' => ends_pure ?_)))
    refine hok _ body (0x04#8 :: bytes) rest t'' (by simpa using heq) ⟨bytes, hbody ▸ hbytes, rfl⟩ hat.pos hbody ?_
    exact hat'
  · refine herr t' hcounted fun body element rest heq helem => ?_
    obtain ⟨length, hlen, rfl⟩ := helem
    have hlt := hno body.length length (body ++ rest) (by simpa using heq) hlen
    rw [length_append] at hlt
    omega

variable {ok : List Byte → Track → Prop}

theorem ends_parseInitializationVector
    (hok : ∀ len iv rest t', ahead = 0x04#8 :: len :: iv ++ rest → iv.length = len.toNat → len ≤ 16#8 →
      At input (before ++ 0x04#8 :: len :: iv) rest t' → ok iv t')
    (herr : ∀ t', Counted input t' → (∀ len iv rest, ahead = 0x04#8 :: len :: iv ++ rest → iv.length = len.toNat →
      ¬len ≤ 16#8) → error t') : (parseInitializationVector input).Ends t ok error := by
  have hlen : ∀ len : Byte, (len.setWidth 64).toNat = len.toNat := by
    intro len
    rw [toNat_setWidth, Nat.mod_eq_of_lt (by have := len.isLt; omega)]
  refine .bind (ends_requireRemain h (fun hremain => ?_) fun hremain => ?_)
  · have hsize : 2 ≤ ahead.length := hremain
    refine .bind (ends_requireBytes h (i := 0) (by simp; omega) (fun rest hrest => ?_) fun hno => ?_)
    · obtain rfl : ahead = 0x04#8 :: rest := hrest
      obtain ⟨len, rest, rfl⟩ := exists_cons_of_length_pos (Nat.le_of_succ_le_succ hsize)
      refine .bind (h.ends_peek (i := 1) rfl (.bind (ends_expect (fun hle => ?_) fun hgt => ?_)))
      · refine .bind (h.ends_advance [0x04#8, len] rfl fun t' hat => .bind ?_)
        refine ends_requireRemain hat (fun hremain => ?_) fun hremain => ?_
        · rw [hlen] at hremain
          obtain ⟨iv, rest, rfl, hiv⟩ : ∃ iv rest', rest = iv ++ rest' ∧ iv.length = len.toNat :=
            ⟨rest.take len.toNat, rest.drop len.toNat, (take_append_drop _ _).symm, by simp [hremain]⟩
          refine .bind (hat.ends_copy [] iv rfl ((hlen len).trans hiv.symm) ?_)
          refine .bind (hat.ends_advance iv ((hlen len).trans hiv.symm) fun t'' hat' => ends_pure ?_)
          exact hok len iv rest t'' rfl hiv (of_decide_eq_true hle) (by simpa using hat')
        · refine herr t' hat.consistent fun len' iv rest' heq hiv => ?_
          rw [hlen] at hremain
          obtain ⟨rfl, rfl⟩ := List.cons.inj (List.cons.inj heq).2
          have hlength : (iv ++ rest').length < len.toNat := hremain
          rw [length_append] at hlength
          omega
      · refine herr t h.consistent fun len' iv rest' heq hiv hle => ?_
        obtain ⟨rfl, -⟩ := List.cons.inj (List.cons.inj heq).2
        exact absurd hle (of_decide_eq_false hgt)
    · exact herr t h.consistent fun len iv rest heq => absurd heq (hno (len :: iv ++ rest))
  · refine herr t h.consistent fun len iv rest heq => ?_
    rw [heq] at hremain
    exact absurd hremain (by simp)

theorem ends_parseKeyDescription {ok : Blob × Byte × Blob → Track → Prop}
    (hlong : ∀ description format authList header params rest t', ahead = header ++ [0x02#8, 1, format] ++ params ++
      rest → Element 0x30#8 ([0x02#8, 1, format] ++ params) (header ++ [0x02#8, 1, format] ++ params) →
      description.data.toNat = before.length → description.dataLength.toNat = 2 + (params.length + 3) →
      authList.data.toNat = (before ++ header ++ [0x02#8, 1, format]).length → authList.dataLength.toNat =
        params.length →
      At input (before ++ header ++ [0x02#8, 1, format] ++ params) rest t' → ok (description, format, authList) t')
    (hshort : ∀ description format authList length left taken rest t',
      ahead = 0x30#8 :: length ++ [0x02#8, 1, format] ++ rest → [0x02#8, 1, format] = left ++ taken → taken ≠ [] →
      LengthBytes left.length length → taken.length ≤ authList.data.toNat →
      authList.dataLength.toNat + taken.length = 2 ^ 64 →
      At input (before ++ 0x30#8 :: length ++ left) (taken ++ rest) t' → ok (description, format, authList) t')
    (herr : ∀ t', Counted input t' → (∀ len format length rest, ahead = 0x30#8 :: length ++ [0x02#8, 1, format] ++
      rest →
      LengthBytes len length → rest.length + 3 < len) → error t') : (parseKeyDescription input).Ends t ok error := by
  refine .bind (ends_cursor (.bind ?_))
  refine ends_derParserGetLengthOfTag h (fun len bytes rest t₁ heq hbytes hle hat => ?_) fun t₁ hcounted hno => ?_
  · have hunique : ∀ len' format length rest', ahead = 0x30#8 :: length ++ [0x02#8, 1, format] ++ rest' →
        LengthBytes len' length → rest = [0x02#8, 1, format] ++ rest' := by
      intro len' format length rest' heq' hlength
      rw [heq, append_assoc] at heq'
      exact (hbytes.unique hlength (List.cons.inj heq').2).2.2
    refine .bind (ends_requireRemain hat (fun hremain => ?_) fun hremain => ?_)
    · have hsize : 3 ≤ rest.length := hremain
      refine .bind (ends_requireBytes hat (i := 0) (by simp; omega) (fun rest' hrest => ?_) fun hno => ?_)
      · obtain rfl : rest = 0x02#8 :: 1 :: rest' := hrest
        obtain ⟨format, rest, rfl⟩ := exists_cons_of_length_pos (show 0 < rest'.length by simp at hsize; omega)
        refine .bind (hat.ends_peek (i := 2) rfl (.bind (hat.ends_advance [0x02#8, 1, format] rfl fun t₂ hat₂ => ?_)))
        refine .bind (ends_cursor (.bind ?_))
        by_cases hlen : 3 ≤ len.toNat
        · have hparams : (len - 3).toNat = len.toNat - 3 := BitVec.toNat_sub_of_le (BitVec.le_def.mpr hlen)
          have hrest : len.toNat - 3 ≤ rest.length := by
            simp at hle
            omega
          obtain ⟨params, rest, rfl, hcnt⟩ : ∃ params rest', rest = params ++ rest' ∧ params.length = len.toNat - 3 :=
            ⟨rest.take (len.toNat - 3), rest.drop (len.toNat - 3), (take_append_drop _ _).symm, by simp [hrest]⟩
          refine hat₂.ends_advance params (hparams.trans hcnt.symm) fun t₃ hat₃ => ends_pure ?_
          have hbody : ([0x02#8, 1, format] ++ params).length = len.toNat := by
            simp [hcnt]
            omega
          have hextent : (2 + len).toNat = 2 + (params.length + 3) := by
            have hsmall := hbytes.lt
            rw [BitVec.toNat_add, show (2 : U64).toNat = 2 from rfl]
            omega
          exact hlong _ format _ (0x30#8 :: bytes) params rest t₃ (by simpa using heq)
            ⟨bytes, hbody ▸ hbytes, by simp⟩ h.pos hextent hat₂.pos (hparams.trans hcnt.symm) hat₃
        · obtain ⟨left, taken, hsplit, hleft⟩ :
              ∃ left taken, [0x02#8, 1, format] = left ++ taken ∧ left.length = len.toNat :=
            ⟨[0x02#8, 1, format].take len.toNat, [0x02#8, 1, format].drop len.toNat, (take_append_drop _ _).symm,
              by simp; omega⟩
          have hthree : left.length + taken.length = 3 := by
            rw [← length_append, ← hsplit]
            rfl
          have hwrapped : (len - 3).toNat + taken.length = 2 ^ 64 := by
            rw [BitVec.toNat_sub, show (3 : U64).toNat = 3 from rfl]
            omega
          have hbehind : taken.length ≤ t₂.cursor.pos.toNat := by
            rw [hat₂.pos, length_append]
            simp only [List.length_cons, List.length_nil]
            omega
          have hsome : taken ≠ [] := by
            rintro rfl
            rw [List.length_nil] at hthree
            omega
          rw [hsplit, ← append_assoc] at hat₂
          refine hat₂.ends_advance_back taken hwrapped fun t₃ hat₃ => ends_pure ?_
          exact hshort _ format _ bytes left taken rest t₃ (by simpa using heq) hsplit hsome (hleft ▸ hbytes) hbehind
            hwrapped hat₃
      · exact herr t₁ hat.consistent fun len' format length rest' heq' hlength =>
          absurd (hunique len' format length rest' heq' hlength) (hno (format :: rest'))
    · refine herr t₁ hat.consistent fun len' format length rest' heq' hlength => ?_
      rw [hunique len' format length rest' heq' hlength] at hremain
      exact absurd hremain (by simp)
  · refine herr t₁ hcounted fun len format length rest heq hlength => ?_
    have hlt := hno len length ([0x02#8, 1, format] ++ rest) (by simpa using heq) hlength
    simpa using hlt

theorem ends_parseTag (hok : ∀ tag, ahead = [0x04#8, 16] ++ tag → tag.length = 16 → ok tag t)
    (herr : Counted input t → (∀ tag, ahead = [0x04#8, 16] ++ tag → tag.length ≠ 16) → error t) :
    (parseTag input).Ends t ok error := by
  refine .bind (ends_cursor (.bind (ends_expect (fun hremain => ?_) fun hremain => ?_)))
  · have hsize : ahead.length = 18 := by
      rw [← h.remain, eq_of_beq hremain]
      rfl
    refine .bind (ends_requireBytes h (i := 0) (by simp [hsize]) (fun tag htag => ?_) fun hno => ?_)
    · obtain rfl : ahead = [0x04#8, 16] ++ tag := htag
      have htag : tag.length = 16 := by simpa using hsize
      have hat : At input before ([0x04#8, 16] ++ tag ++ []) t := by simpa using h
      exact hat.ends_copy [0x04#8, 16] tag rfl (by rw [htag]; rfl) (hok tag rfl htag)
    · exact herr h.consistent fun tag heq => absurd heq (hno tag)
  · refine herr h.consistent fun tag heq htag => ?_
    have hremain := ne_of_beq_false hremain
    refine hremain (BitVec.eq_of_toNat_eq ?_)
    rw [h.remain, heq, length_append, htag]
    rfl

end

theorem ends_fromKeyDescription {input before ahead : List Byte} {t : Track} (hat : At input before ahead t)
    {transportKey : Blob} (hkey : transportKey.stop ≤ before.length) (iv : List Byte) :
    Reader.Ends (do
      let (keyDescription, keyFormat, authList) ← parseKeyDescription input
      let encryptedKey ← parseOctstring input
      let tag ← parseTag input
      pure (⟨transportKey, iv, keyDescription, keyFormat, authList, encryptedKey, tag⟩ : Fields)) t
      (fun fields t => Counted input t ∧ (InBounds input fields ↔ ¬ShortFromDescription ahead))
      (fun t => Counted input t ∧ ¬ShortFromDescription ahead) := by
  refine .bind (ends_parseKeyDescription hat
    (fun description format authList header params rest t₁ hahead helem hstart _ hauth hparams hat₁ => ?_)
    (fun description format authList length left taken rest t₁ hahead hsplit htaken hlen hbehind hwrapped hat₁ => ?_)
    fun t₁ hcounted hno => ⟨hcounted, ?_⟩)
  · have hlong : ¬ShortFromDescription ahead := by
      rw [hahead]
      exact not_shortFromDescription helem (by simp)
    refine .bind (ends_parseOctstring hat₁ (fun encryptedKey key keyHeader rest₂ t₂ hrest₂ hkeyElem hdata hsize hat₂ =>
      ?_)
      fun t₂ hcounted _ => ⟨hcounted, hlong⟩)
    refine .bind (ends_parseTag hat₂ (fun tag hrest htag => ends_pure ⟨hat₂.consistent, iff_of_true ?_ hlong⟩)
      fun hcounted _ => ⟨hcounted, hlong⟩)
    have hinput := hat₂.length_eq
    simp only [length_append] at hinput hauth hdata
    refine ⟨?_, ?_, ?_, before, _, _, rest, ?_, helem, hstart, ?_, ?_⟩
    · show transportKey.stop ≤ authList.data.toNat
      omega
    · show authList.data.toNat + authList.dataLength.toNat ≤ encryptedKey.data.toNat
      omega
    · show encryptedKey.data.toNat + encryptedKey.dataLength.toNat ≤ input.length
      omega
    · rw [hat.split, hahead]
      simp only [append_assoc]
    · show before.length ≤ authList.data.toNat
      omega
    · show authList.data.toNat + authList.dataLength.toNat ≤ _
      simp only [length_append]
      omega
  · have hiff := @shortFromDescription_iff format length left taken rest hsplit htaken hlen
    rw [← hahead] at hiff
    refine .bind (ends_parseOctstring hat₁ (fun encryptedKey key keyHeader rest₂ t₂ hrest₂ hkeyElem hdata hsize hat₂ =>
      ?_)
      fun t₂ hcounted hno => ⟨hcounted, fun hshort => ?_⟩)
    · refine .bind (ends_parseTag hat₂ (fun tag hrest htag => ends_pure ⟨hat₂.consistent, iff_of_false ?_ ?_⟩)
        fun hcounted hno => ⟨hcounted, fun hshort => ?_⟩)
      · -- The wrapped length ends past everything that a machine word can point to.
        rintro ⟨-, hauthList, -, -⟩
        have hdata := encryptedKey.data.isLt
        have hstop : authList.data.toNat + authList.dataLength.toNat ≤ encryptedKey.data.toNat := hauthList
        omega
      · exact not_not.mpr (hiff.mpr ⟨key, _, tag, by rw [hrest₂, hrest], hkeyElem, htag⟩)
      · obtain ⟨key', element', tag, heq, helem', htag⟩ := hiff.mp hshort
        rw [hrest₂] at heq
        obtain ⟨-, -, hrest⟩ := hkeyElem.unique helem' heq
        exact hno tag hrest htag
    · obtain ⟨key', element', tag, heq, helem', htag⟩ := hiff.mp hshort
      exact hno key' element' _ heq helem'
  · rintro ⟨description, key, element, tag, heq, ⟨length, hlen, rfl⟩, ⟨keyLength, hkeyLen, rfl⟩, htag⟩
    have hlt := hno 2 0x04#8 length (keyLength ++ key ++ [0x04#8, 16] ++ tag) (by simpa using heq) hlen
    omega

theorem ends_sspKeyparserParseWrappedkey {input : List Byte} (hsize : input.length < 2 ^ 64) :
    (sspKeyparserParseWrappedkey input).Ends ⟨⟨0, ofNat 64 input.length⟩, []⟩
      (fun fields t => Counted input t ∧ (InBounds input fields ↔ ¬ShortDescription input))
      (fun t => Counted input t ∧ ¬ShortDescription input) := by
  refine .bind (ends_derParserGetLengthOfTag (At.start hsize) (fun len outer rest t₁ hinput houter hle hat₁ => ?_)
    fun t₁ hcounted hno => ⟨hcounted, ?_⟩)
  rotate_left
  · rintro ⟨transportKey, element, rest, ⟨length, hlength, heq⟩, -⟩
    exact absurd (hno _ length _ heq hlength) (Nat.lt_irrefl _)
  have hfields : ShortDescription input → rest.length = len.toNat ∧ ∃ transportKey element rest',
      rest = [0x02#8, 1, 0] ++ (element ++ rest') ∧ Element 0x04#8 transportKey element := by
    rintro ⟨transportKey, element, rest', ⟨length, hlength, heq⟩, helem, -⟩
    obtain ⟨hlen, -, hrest⟩ := houter.unique hlength (List.cons.inj (hinput.symm.trans heq)).2
    exact ⟨by rw [hlen, hrest], transportKey, element, rest', by simpa using hrest, helem⟩
  refine .bind (ends_cursor (.bind (ends_expect (fun hwhole => ?_) fun hpart => ⟨hat₁.consistent, fun hshort => ?_⟩)))
  rotate_left
  · refine ne_of_beq_false hpart (BitVec.eq_of_toNat_eq ?_)
    rw [hat₁.remain, (hfields hshort).1]
  have hwhole : len.toNat = rest.length := by rw [← eq_of_beq hwhole, hat₁.remain]
  refine .bind (ends_parseVersion hat₁ (fun rest₁ t₂ hrest₁ hat₂ => ?_) fun hcounted hno =>
    ⟨hcounted, fun hshort => ?_⟩)
  rotate_left
  · obtain ⟨-, transportKey, element, rest', hrest, -⟩ := hfields hshort
    exact hno _ hrest
  refine .bind (ends_parseOctstring hat₂ (fun transportKey key header rest₂ t₃ hrest₂ hkey hdata hlength hat₃ => ?_)
    fun t₃ hcounted hno => ⟨hcounted, fun hshort => ?_⟩)
  rotate_left
  · obtain ⟨-, transportKey, element, rest', hrest, helem⟩ := hfields hshort
    rw [hrest₁] at hrest
    exact hno transportKey element rest' (List.append_cancel_left hrest) helem
  subst hrest₁ hrest₂
  have hiff : ShortDescription input ↔ ShortFromInitializationVector rest₂ := by
    rw [hinput]
    exact shortDescription_iff (hwhole ▸ houter) hkey
  refine .bind (ends_parseInitializationVector hat₃ (fun ivLen iv rest₃ t₄ hrest₃ hiv hivLen hat₄ => ?_)
    fun t₄ hcounted hno => ⟨hcounted, ?_⟩)
  rotate_left
  · rw [hiff]
    rintro ⟨ivLen, iv, rest₃, heq, hiv, hivLen, -⟩
    exact hno ivLen iv rest₃ heq hiv hivLen
  subst hrest₃
  rw [shortFromInitializationVector_iff hiv hivLen] at hiff
  rw [hiff]
  refine ends_fromKeyDescription hat₄ ?_ iv
  rw [Blob.stop, hdata, hlength]
  simp only [length_append]
  omega

/-- The parser is safe on every wrapped key but those whose key description is the two bytes `02 01`. -/
theorem safe_iff {input : List Byte} (hsize : input.length < 2 ^ 64) : Safe input ↔ ¬ShortDescription input := by
  obtain ⟨t, r, hrun, hends⟩ := ends_sspKeyparserParseWrappedkey hsize
  cases r with
  | error e => exact iff_of_true ⟨t, .error e, hrun, hends.1, nofun⟩ hends.2
  | ok fields =>
    rw [← hends.2]
    constructor
    · rintro ⟨t', r', hrun', -, hbounds⟩
      cases hrun.symm.trans hrun'
      exact hbounds fields rfl
    · intro hbounds
      refine ⟨t, .ok fields, hrun, hends.1, fun fields' heq => ?_⟩
      cases heq
      exact hbounds

def emptyKey (outerLength : Byte) (keyDescription : List Byte) : List Byte :=
  0x30#8 :: [outerLength] ++ ([0x02#8, 1, 0] ++ ([0x04#8, 0] ++
    (0x04#8 :: 0 :: [] ++ (keyDescription ++ ([0x04#8, 0, 0x04, 16] ++ List.replicate 16 0#8)))))

theorem safe_iff_emptyAuthList : Safe (emptyKey 32 [0x30#8, 3, 0x02, 1, 3]) := by
  refine (safe_iff (by decide)).mpr fun hshort => ?_
  have houter : LengthBytes ([0x02#8, 1, 0] ++ ([0x04#8, 0] ++ (0x04#8 :: 0 :: [] ++ ([0x30#8, 3, 0x02, 1, 3] ++
      ([0x04#8, 0, 0x04, 16] ++ List.replicate 16 0#8))))).length [32#8] := .short 32#8 (by decide)
  have hkey : Element 0x04#8 [] [0x04#8, 0] := ⟨[0], .short 0#8 (by decide), rfl⟩
  have hdesc : Element 0x30#8 [0x02#8, 1, 3] [0x30#8, 3, 0x02, 1, 3] := ⟨[3], .short 3#8 (by decide), rfl⟩
  have hiv := (shortDescription_iff houter hkey).mp hshort
  exact not_shortFromDescription hdesc (by decide) ((shortFromInitializationVector_iff rfl (by decide)).mp hiv)

def parsedAuthList (input : List Byte) : Option Blob :=
  match parseWrappedkey input with
  | some (_, .ok fields) => some fields.authList
  | _ => none

theorem not_safe_shortDescription : ¬∀ input : List Byte, input.length < 2 ^ 64 → Safe input := by
  intro h
  have hparsed : parsedAuthList (emptyKey 31 [0x30#8, 2, 0x02, 1]) = some ⟨14, -1⟩ := by decide +kernel
  obtain ⟨t, r, hrun, -, hbounds⟩ := h (emptyKey 31 [0x30#8, 2, 0x02, 1]) (by decide)
  rw [parsedAuthList, hrun] at hparsed
  cases r with
  | error e => cases hparsed
  | ok fields =>
    have hauthList : fields.authList = ⟨14, -1⟩ := Option.some.inj hparsed
    have hstop := (hbounds fields rfl).authList
    have hdata := fields.encryptedKey.data.isLt
    rw [hauthList, show Blob.stop ⟨14, -1⟩ = 2 ^ 64 + 13 from rfl] at hstop
    omega

end ExynosHal.Strongbox.WrappedKey
