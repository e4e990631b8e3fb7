import ExynosHal.DisplayColor.Implementation
import ExynosHal.Library.Run

/-! # Parcels of the display colour library

The driver's walk over a parcel finds the LUTs of the mode and the transform that were set.
-/

namespace ExynosHal.DisplayColor
open Library.Run (unbind)
open Library.BitString Library.LittleEndian
open List (append_assoc length_append length_cons length_map map_cons)
open Option (isSome_iff_exists none_or or_none)
open BitVec (ofNat toNat_ofNat)

structure Item where
  id : Byte
  attr : Attributes
  crc : U16
  text : List Byte
  deriving DecidableEq

def readItem (bytes : List Byte) : Option (Item × Nat) :=
  match bytes with
  | _ :: id :: t0 :: t1 :: h0 :: h1 :: a0 :: a1 :: a2 :: a3 :: c0 :: c1 :: _ =>
    if 0#8 ∈ bytes.drop (ofLittleEndian [h0, h1]) then
      some ({ id, attr := ⟨a0, a1, a2, a3⟩, crc := ofNat 16 (ofLittleEndian [c0, c1]),
              text := (bytes.drop (ofLittleEndian [h0, h1])).takeWhile (· ≠ 0#8) }, ofLittleEndian [t0, t1])
    else none
  | _ => none

def walkFrom (parcel : List Byte) : Nat → Nat → Option (List Item × Nat)
  | 0, pos => some ([], pos)
  | count + 1, pos => do
    let (item, size) ← readItem (parcel.drop pos)
    let (items, last) ← walkFrom parcel count (pos + size)
    some (item :: items, last)

def walkParcel (parcel : List Byte) : Option (List Item × Nat × Nat) :=
  match parcel with
  | _ :: _ :: t0 :: t1 :: h0 :: h1 :: n0 :: n1 :: _ => do
    let (items, last) ← walkFrom parcel (ofLittleEndian [n0, n1]) (ofLittleEndian [h0, h1])
    some (items, last, ofLittleEndian [t0, t1])
  | _ => none

structure Lut where
  id : NodeId
  attr : Attributes
  text : CString
  deriving DecidableEq

namespace Lut

def header (lut : Lut) : DataHeader := dataHeader lut.id.value lut.attr lut.text

def stored (lut : Lut) : CString × DataHeader := (lut.text, lut.header)

def item (lut : Lut) : Item :=
  { id := lut.id.value, attr := lut.attr, crc := getCrc16 lut.text.cStr, text := lut.text.bytes }

def bytes (lut : Lut) : List Byte := lut.header.bytes ++ lut.text.cStr

def size (lut : Lut) : Nat := HEADER_SIZE + (lut.text.size + 1)

def ofNode (node : XmlNode) : Option Lut := do
  let id ← dqeNodeIdMap.lookup node.name
  let text ← node.content
  let att0 ← lutAttribute node "att0"
  let att1 ← lutAttribute node "att1"
  let att2 ← lutAttribute node "att2"
  let att3 ← lutAttribute node "att3"
  some { id, attr := ⟨att0, att1, att2, att3⟩, text }

def ofMatrix (matrix : Matrix) : Lut :=
  { id := .gammaMatrix, attr := ⟨255#8, 255#8, 255#8, 255#8⟩, text := matrixText matrix }

end Lut

abbrev Table := Key → List Lut

def isMode (key : Key) (cur : XmlNode) : Bool := cur.name = "mode" ∧ modeKey cur = some (some key)

def modeLuts (sys : System) (displayId : Nat) (cur : XmlNode) : List Lut :=
  (modeNodes sys displayId cur).filterMap Lut.ofNode

def calibration (sys : System) (displayId : Nat) (modes : List XmlNode) : Table := fun key =>
  ((modes.find? (isMode key)).map (modeLuts sys displayId)).getD []

structure Client where
  selected : Option Key
  transform : Option Matrix

def Client.fresh : Client := { selected := none, transform := none }

inductive Call where
  | setColorMode (mode : U32)
  | setColorModeWithRenderIntent (mode intent : U32)
  | setColorTransform (matrix : Matrix)
  | getDqeLut

def step (s : Impl × Client) : Call → Impl × Client
  | .setColorMode mode => (setColorMode s.1 mode, { s.2 with selected := some (mode, 0) })
  | .setColorModeWithRenderIntent mode intent =>
    (setColorModeWithRenderIntent s.1 mode intent, { s.2 with selected := some (mode, intent) })
  | .setColorTransform matrix => (setColorTransform s.1 matrix, { s.2 with transform := some matrix })
  | .getDqeLut => ((getDqeLut s.1).2, if (getDqeLut s.1).1.ret = 0 then .fresh else s.2)

def withTransform (luts : List Lut) : Option Matrix → List Lut
  | none => luts
  | some matrix =>
    if luts.any (·.id = .gammaMatrix) then luts.map fun lut => if lut.id = .gammaMatrix then .ofMatrix matrix else lut
    else luts ++ [.ofMatrix matrix]

def Client.luts (c : Client) (table : Table) : List Lut := c.selected.elim [] table

def Client.expected (c : Client) (table : Table) : List Lut := withTransform (c.luts table) c.transform

def RoundTrips (parcel : List Byte) (luts : List Lut) : Prop :=
  ∃ last, walkParcel parcel = some (luts.map Lut.item, last, last)

def parcelSize (luts : List Lut) : Nat := HEADER_SIZE + (luts.map Lut.size).sum

def Client.distinct (c : Client) (table : Table) : Prop :=
  ∀ key ∈ c.selected, key.1 = -1 → table key = [] ∨ ∃ lut, table key = [lut] ∧ lut.id = .gammaMatrix

theorem length_headerBytes (h : DataHeader) : h.bytes.length = HEADER_SIZE := by
  simp [DataHeader.bytes, HEADER_SIZE]

theorem length_globalHeaderBytes (h : GlobalHeader) : h.bytes.length = HEADER_SIZE := by
  simp [GlobalHeader.bytes, HEADER_SIZE]

variable (lut : Lut)

theorem Lut.length_bytes : lut.bytes.length = lut.size := by
  simp [Lut.bytes, length_headerBytes, CString.cStr, Lut.size, CString.size]

theorem length_flatMap_bytes (luts : List Lut) : (luts.flatMap Lut.bytes).length = (luts.map Lut.size).sum := by
  rw [List.length_flatMap]
  simp only [Lut.length_bytes]

theorem ofLittleEndian_word (word : U16) :
    ofLittleEndian [ofNat 8 word.toNat, ofNat 8 (word.toNat / 256)] = word.toNat := by
  have h := ofLittleEndian_toLittleEndian 2 word.toNat word.isLt
  simpa only [toLittleEndian] using h

theorem readItem_bytes (h : DataHeader) (text : CString) (rest : List Byte) (hsize : h.headerSize.toNat = HEADER_SIZE) :
    readItem (h.bytes ++ text.cStr ++ rest) =
      some ({ id := h.id, attr := h.attr, crc := h.crc, text := text.bytes }, h.totalSize.toNat) := by
  have hdrop : (h.bytes ++ text.cStr ++ rest).drop h.headerSize.toNat = text.bytes ++ 0#8 :: rest := by
    rw [hsize, ← length_headerBytes h, append_assoc, List.drop_left, CString.cStr, append_assoc, List.singleton_append]
  have hmem : 0#8 ∈ text.bytes ++ 0#8 :: rest := by simp
  have htake : (text.bytes ++ 0#8 :: rest).takeWhile (· ≠ 0#8) = text.bytes := by
    rw [List.takeWhile_append_of_pos]
    · simp
    · intro byte hbyte
      simpa using fun hzero : byte = 0#8 => text.noNul (hzero ▸ hbyte)
  have hbytes : h.bytes ++ text.cStr ++ rest = h.magic :: h.id :: ofNat 8 h.totalSize.toNat ::
      ofNat 8 (h.totalSize.toNat / 256) :: ofNat 8 h.headerSize.toNat ::
      ofNat 8 (h.headerSize.toNat / 256) :: h.attr.att0 :: h.attr.att1 :: h.attr.att2 :: h.attr.att3 ::
      ofNat 8 h.crc.toNat :: ofNat 8 (h.crc.toNat / 256) :: (text.cStr ++ rest) := rfl
  rw [hbytes] at hdrop ⊢
  simp only [readItem, ofLittleEndian_word, hdrop]
  rw [if_pos hmem, htake, BitVec.ofNat_toNat, BitVec.setWidth_eq]

theorem Lut.readItem_bytes (hfits : lut.size < 2 ^ 16) (rest : List Byte) :
    readItem (lut.bytes ++ rest) = some (lut.item, lut.size) := by
  rw [Lut.bytes, DisplayColor.readItem_bytes _ _ _ rfl]
  have hsize : lut.header.totalSize.toNat = lut.size := by
    show (ofNat 16 lut.size).toNat = lut.size
    rw [toNat_ofNat, Nat.mod_eq_of_lt hfits]
  rw [hsize]
  rfl

theorem walkFrom_luts (before : List Byte) (luts rest : List Lut) (hfits : ∀ lut ∈ luts, lut.size < 2 ^ 16) :
    walkFrom (before ++ (luts ++ rest).flatMap Lut.bytes) luts.length before.length =
      some (luts.map Lut.item, before.length + (luts.map Lut.size).sum) := by
  induction luts generalizing before with
  | nil => rfl
  | cons lut luts ih =>
    obtain ⟨hlut, hluts⟩ := List.forall_mem_cons.mp hfits
    have hnext := ih (before ++ lut.bytes) hluts
    rw [length_append, lut.length_bytes, append_assoc] at hnext
    rw [List.cons_append, List.flatMap_cons, length_cons, walkFrom, List.drop_left, lut.readItem_bytes hlut,
      Option.bind_eq_bind, Option.bind_some]
    dsimp only
    rw [hnext]
    simp [Nat.add_assoc]

def parcelOf (header : GlobalHeader) (luts : List Lut) : List Byte := { header with
    totalSize := ofNat 16 (parcelSize luts), numData := ofNat 16 luts.length }.bytes ++
      luts.flatMap Lut.bytes

theorem walkParcel_bytes (h : GlobalHeader) (data : List Byte) : walkParcel (h.bytes ++ data) =
      (walkFrom (h.bytes ++ data) h.numData.toNat h.headerSize.toNat).map fun r => (r.1, r.2, h.totalSize.toNat) := by
  rw [← ofLittleEndian_word h.numData, ← ofLittleEndian_word h.headerSize, ← ofLittleEndian_word h.totalSize,
    Option.map_eq_bind]
  rfl

variable {luts : List Lut}

theorem walkParcel_parcelOf {header : GlobalHeader} (hhdr : header.headerSize = ofNat 16 HEADER_SIZE)
    (hfits : ∀ lut ∈ luts, lut.size < 2 ^ 16) :
    walkParcel (parcelOf header luts) =
      some ((luts.take (luts.length % 2 ^ 16)).map Lut.item, parcelSize (luts.take (luts.length % 2 ^ 16)),
        parcelSize luts % 2 ^ 16) := by
  have hwalk (filled : GlobalHeader) := walkFrom_luts filled.bytes (luts.take (luts.length % 2 ^ 16))
    (luts.drop (luts.length % 2 ^ 16)) fun lut hlut => hfits lut (List.mem_of_mem_take hlut)
  simp only [List.take_append_drop, List.length_take_of_le (Nat.mod_le ..), length_globalHeaderBytes] at hwalk
  rw [parcelOf, walkParcel_bytes]
  rw [hhdr, toNat_ofNat, toNat_ofNat, toNat_ofNat, Nat.mod_eq_of_lt (by decide : HEADER_SIZE < 2 ^ 16),
    hwalk]
  rfl

theorem length_lt_parcelSize (luts : List Lut) : luts.length < parcelSize luts := by
  unfold parcelSize
  induction luts with
  | nil => simp [HEADER_SIZE]
  | cons lut luts ih =>
    simp only [length_cons, map_cons, List.sum_cons, Lut.size, HEADER_SIZE] at ih ⊢
    omega

variable {header : GlobalHeader} {luts : List Lut}

theorem walkParcel_of_parcelSize_lt (hhdr : header.headerSize = ofNat 16 HEADER_SIZE)
    (hfits : ∀ lut ∈ luts, lut.size < 2 ^ 16) (hsize : parcelSize luts < 2 ^ 16) :
    walkParcel (parcelOf header luts) = some (luts.map Lut.item, parcelSize luts, parcelSize luts) := by
  have hlen : luts.length % 2 ^ 16 = luts.length := Nat.mod_eq_of_lt ((length_lt_parcelSize luts).trans hsize)
  rw [walkParcel_parcelOf hhdr hfits, hlen, List.take_length, Nat.mod_eq_of_lt hsize]

theorem roundTrips_parcelOf (hhdr : header.headerSize = ofNat 16 HEADER_SIZE)
    (hfits : ∀ lut ∈ luts, lut.size < 2 ^ 16) : RoundTrips (parcelOf header luts) luts ↔ parcelSize luts < 2 ^ 16 := by
  constructor
  · rintro ⟨last, hwalk⟩
    rw [walkParcel_parcelOf hhdr hfits, Option.some.injEq, Prod.mk.injEq, Prod.mk.injEq] at hwalk
    obtain ⟨hitems, hlast, htotal⟩ := hwalk
    -- All LUTs were walked over, so that the walk ended behind the last one.
    have hlen : luts.length % 2 ^ 16 = luts.length := by
      have hcounts := congrArg List.length hitems
      rw [length_map, length_map, List.length_take_of_le (Nat.mod_le ..)] at hcounts
      exact hcounts
    rw [hlen, List.take_length] at hlast
    rw [hlast, ← htotal]
    exact Nat.mod_lt _ (by decide)
  · intro hsize
    exact ⟨parcelSize luts, walkParcel_of_parcelSize_lt hhdr hfits hsize⟩

theorem CString.size_append (s t : CString) : (s.append t).size = s.size + t.size := length_append

theorem CString.size_toString (value : Int32) : (CString.toString value.toInt).size ≤ 11 := by
  have hlow := value.le_toInt
  have hhigh := value.toInt_lt
  have hdigits : (CString.ofNat value.toInt.natAbs).size ≤ 10 := by
    rw [CString.ofNat, CString.size, length_map, Nat.length_toDigits_le_iff (by decide) (by decide)]
    omega
  unfold CString.toString
  split
  · rw [CString.size_append]
    exact Nat.add_le_add (Nat.le_refl 1) hdigits
  · omega

theorem Lut.size_ofMatrix (matrix : Matrix) : (Lut.ofMatrix matrix).size ≤ 207 := by
  -- Each value adds at most eleven bytes and a comma.
  have hfold : ∀ (indices : List (Fin 16)) (entry : CString), (indices.foldl (fun entry i =>
        let value := entry.append (CString.toString (matrix i).toInt)
        if i ≠ 15 then value.append .comma else value) entry).size ≤ entry.size + 12 * indices.length := by
    intro indices
    induction indices with
    | nil => exact fun entry => Nat.le_refl _
    | cons i indices ih =>
      intro entry
      have hval := CString.size_toString (matrix i)
      refine (ih _).trans ?_
      rw [length_cons]
      dsimp only
      split
      · rw [CString.size_append, CString.size_append, show CString.comma.size = 1 from rfl]
        omega
      · rw [CString.size_append]
        omega
  have htext : (matrixText matrix).size ≤ 2 + 12 * 16 := hfold (List.finRange 16) _
  show HEADER_SIZE + ((matrixText matrix).size + 1) ≤ 207
  rw [HEADER_SIZE]
  omega

theorem sizeAgrees_header : sizeAgrees lut.text lut.header ↔ lut.size < 2 ^ 16 := by
  have htotal : lut.header.totalSize.toNat = lut.size % 2 ^ 16 := toNat_ofNat ..
  have hhdr : lut.header.headerSize.toNat = 12 := rfl
  have hsize : lut.size = 12 + (lut.text.size + 1) := rfl
  rw [sizeAgrees, decide_eq_true_iff, htotal, hhdr]
  omega

theorem NodeId.value_injective : Function.Injective NodeId.value := by
  intro a b h
  cases a <;> cases b <;> first | rfl | cases h

structure Agrees (table : Table) (s : Impl × Client) : Prop where
  texts : ∀ key, (s.1.dqeLutMap key).getD [] = (table key).map Lut.text
  headers : ∀ key, (s.1.dqeLutHeaderMap key).getD [] = (table key).map Lut.header
  headerSize : s.1.gHeaderBase.headerSize = ofNat 16 HEADER_SIZE
  selected : (s.1.mode, s.1.intent) = s.2.selected.getD (-1, -1)
  matrixEn : s.1.matrixEn = s.2.transform.isSome
  matrix : ∀ matrix ∈ s.2.transform,
    s.1.cfMatrix = (Lut.ofMatrix matrix).text ∧ s.1.cfMatrixHeader = (Lut.ofMatrix matrix).header

def replaced (transform : Option Matrix) (lut : Lut) : Lut :=
  match transform with
  | some matrix => if lut.id = .gammaMatrix then .ofMatrix matrix else lut
  | none => lut

section
variable {table : Table} {d : Impl} {c : Client}

theorem Agrees.emitTable_cons (h : Agrees table (d, c)) (hasMatrix : Bool) (lut : Lut)
    (rest : List (CString × DataHeader)) :
    emitTable d hasMatrix (lut.stored :: rest) =
      if (replaced c.transform lut).size < 2 ^ 16 then
        (emitTable d (hasMatrix || (c.transform.isSome && lut.id = .gammaMatrix)) rest).after
          (replaced c.transform lut).text (replaced c.transform lut).header
      else { data := [], ok := false, hasMatrix := hasMatrix || (c.transform.isSome && lut.id = .gammaMatrix) } := by
  have hid : lut.header.id = NodeId.gammaMatrix.value ↔ lut.id = .gammaMatrix := NodeId.value_injective.eq_iff
  have hen : d.matrixEn = c.transform.isSome := h.matrixEn
  simp only [Lut.stored, emitTable, hid, hen]
  cases htransform : c.transform with
  | none => simp [replaced, sizeAgrees_header]
  | some matrix =>
    obtain ⟨htext, hhdr⟩ : d.cfMatrix = _ ∧ d.cfMatrixHeader = _ := h.matrix matrix htransform
    by_cases hgamma : lut.id = .gammaMatrix
    · simp [replaced, hgamma, htext, hhdr, sizeAgrees_header]
    · simp [replaced, hgamma, sizeAgrees_header]

theorem Agrees.emitTable_luts (h : Agrees table (d, c)) {hasMatrix : Bool}
    (hok : (emitTable d hasMatrix (luts.map Lut.stored)).ok) :
    (emitTable d hasMatrix (luts.map Lut.stored)).data = (luts.map (replaced c.transform)).flatMap Lut.bytes ∧
      (emitTable d hasMatrix (luts.map Lut.stored)).hasMatrix =
        (hasMatrix || (c.transform.isSome && luts.any (·.id = .gammaMatrix))) ∧
      ∀ lut ∈ luts.map (replaced c.transform), lut.size < 2 ^ 16 := by
  induction luts generalizing hasMatrix with
  | nil => simp [emitTable]
  | cons lut luts ih =>
    rw [map_cons, h.emitTable_cons] at hok ⊢
    split at hok
    · rename_i hfits
      obtain ⟨hdata, hmat, hrest⟩ := ih hok
      rw [if_pos hfits, Emitted.after]
      refine ⟨?_, ?_, ?_⟩
      · rw [hdata]
        rfl
      · rw [hmat, List.any_cons, Bool.and_or_distrib_left, Bool.or_assoc]
      · exact List.forall_mem_cons.mpr ⟨hfits, hrest⟩
    · cases hok

theorem Agrees.emitTable_ok (h : Agrees table (d, c)) {hasMatrix : Bool}
    (hfits : ∀ lut ∈ luts, (replaced c.transform lut).size < 2 ^ 16) :
    (emitTable d hasMatrix (luts.map Lut.stored)).ok := by
  induction luts generalizing hasMatrix with
  | nil => rfl
  | cons lut luts ih =>
    obtain ⟨hlut, hluts⟩ := List.forall_mem_cons.mp hfits
    rw [map_cons, h.emitTable_cons, if_pos hlut]
    exact ih hluts

theorem withTransform_of_hasMatrix {transform : Option Matrix}
    (h : transform.isSome → luts.any (·.id = .gammaMatrix)) :
    withTransform luts transform = luts.map (replaced transform) := by
  cases transform with
  | none => exact (List.map_id' luts).symm
  | some matrix =>
    rw [withTransform, if_pos (h rfl)]
    rfl

theorem withTransform_of_not_hasMatrix {matrix : Matrix} (h : luts.any (·.id = .gammaMatrix) = false) :
    luts.map (replaced (some matrix)) = luts ∧ withTransform luts (some matrix) = luts ++ [.ofMatrix matrix] := by
  constructor
  · conv_rhs => rw [← List.map_id luts]
    apply List.map_congr_left
    intro lut hlut
    have hid : lut.id ≠ .gammaMatrix := by simpa using List.any_eq_false.mp h lut hlut
    exact if_neg hid
  · rw [withTransform, if_neg (by simp [h])]

/-- A parcel that `getDqeLut` has written. -/
def Output.parcel (out : Output) : List Byte := out.header ++ out.data

theorem finish_parcel (d : Impl) (luts : List Lut) :
    (finish d (luts.flatMap Lut.bytes) luts.length).1.parcel = parcelOf d.gHeaderBase luts := by
  simp only [finish, Output.parcel, parcelOf, parcelSize, length_flatMap_bytes]

theorem Agrees.getModeLut_eq (h : Agrees table (d, c)) : getModeLut d =
      let luts := table (d.mode, d.intent)
      let touched := touchKey d (d.mode, d.intent)
      let emitted := emitTable d false (luts.map Lut.stored)
      if emitted.ok = false then (.failed emitted.data, touched)
      else if d.matrixEn ∧ emitted.hasMatrix = false then
        finish touched (emitted.data ++ (d.cfMatrixHeader.bytes ++ d.cfMatrix.cStr)) (luts.length + 1)
      else finish touched emitted.data luts.length := by
  have htexts : (d.dqeLutMap (d.mode, d.intent)).getD [] = _ := h.texts (d.mode, d.intent)
  have hheaders : (d.dqeLutHeaderMap (d.mode, d.intent)).getD [] = _ := h.headers (d.mode, d.intent)
  generalize table (d.mode, d.intent) = luts at htexts hheaders ⊢
  have hzip : (luts.map Lut.text).zip (luts.map Lut.header) = luts.map Lut.stored := List.zip_map'
  simp only [DisplayColor.getModeLut, htexts, hheaders, length_map, hzip, ne_eq, not_true_eq_false, if_false]

theorem Agrees.getModeLut (h : Agrees table (d, c)) (hret : (getModeLut d).1.ret = 0) :
    (getModeLut d).1.parcel = parcelOf d.gHeaderBase (withTransform (table (d.mode, d.intent)) c.transform) ∧
      ∀ lut ∈ withTransform (table (d.mode, d.intent)) c.transform, lut.size < 2 ^ 16 := by
  have hen : d.matrixEn = c.transform.isSome := h.matrixEn
  rw [h.getModeLut_eq] at hret ⊢
  generalize table (d.mode, d.intent) = luts at hret ⊢
  dsimp only at hret ⊢
  split at hret
  · cases hret
  · rename_i hok
    obtain ⟨hdata, hmat, hfits⟩ := h.emitTable_luts (by simpa using hok)
    rw [if_neg hok]
    rw [Bool.false_or] at hmat
    split
    · rename_i happended
      obtain ⟨hsome, hnot⟩ := happended
      rw [hen] at hsome
      rw [hmat, hsome, Bool.true_and] at hnot
      obtain ⟨matrix, htransform⟩ := isSome_iff_exists.mp hsome
      obtain ⟨htext, hhdr⟩ : d.cfMatrix = _ ∧ d.cfMatrixHeader = _ := h.matrix matrix htransform
      obtain ⟨hsame, hwith⟩ := @withTransform_of_not_hasMatrix _ matrix hnot
      rw [htransform, hsame] at hdata hfits
      rw [htransform, hwith, hdata, htext, hhdr]
      constructor
      · have hparcel : _ = parcelOf d.gHeaderBase _ :=
          finish_parcel (touchKey d (d.mode, d.intent)) (luts ++ [.ofMatrix matrix])
        simpa [Lut.bytes] using hparcel
      · intro lut hlut
        rcases List.mem_append.mp hlut with hlut | hlut
        · exact hfits lut hlut
        · rw [List.mem_singleton.mp hlut]
          exact (Lut.size_ofMatrix matrix).trans_lt (by decide)
    · rename_i hnot
      have hwith : withTransform luts c.transform = luts.map (replaced c.transform) := by
        refine withTransform_of_hasMatrix fun hsome => ?_
        rw [hen, hmat, hsome] at hnot
        simpa using hnot
      rw [hwith, hdata]
      constructor
      · have hparcel := finish_parcel (touchKey d (d.mode, d.intent)) (luts.map (replaced c.transform))
        rw [length_map] at hparcel
        exact hparcel
      · exact hfits

theorem Agrees.getDqeLut_ret (h : Agrees table (d, c)) (hinit : d.initCompleted) (hmode : d.mode ≠ -1)
    (hfits : ∀ lut ∈ table (d.mode, d.intent), (replaced c.transform lut).size < 2 ^ 16) :
    (getDqeLut d).1.ret = 0 := by
  have hok : (emitTable d false ((table (d.mode, d.intent)).map Lut.stored)).ok := h.emitTable_ok hfits
  rw [getDqeLut, if_neg (by simp [hinit]), if_pos hmode, h.getModeLut_eq]
  simp only [hok, Bool.true_eq_false, if_false]
  split <;> rfl

theorem withTransform_items_eq (luts : List Lut) (matrix : Matrix) :
    (withTransform luts (some matrix)).map Lut.item = [(Lut.ofMatrix matrix).item] ↔
      luts = [] ∨ ∃ lut, luts = [lut] ∧ lut.id = .gammaMatrix := by
  constructor
  · intro hitems
    have hlen := congrArg List.length hitems
    rw [length_map, List.length_singleton, withTransform] at hlen
    split at hlen
    · rename_i hany
      rw [length_map] at hlen
      obtain ⟨lut, rfl⟩ := List.length_eq_one_iff.mp hlen
      exact .inr ⟨lut, rfl, by simpa using hany⟩
    · rw [length_append, List.length_singleton] at hlen
      exact .inl (List.length_eq_zero_iff.mp (by omega))
  · rintro (rfl | ⟨lut, rfl, hid⟩)
    · rfl
    · simp [withTransform, hid]

theorem Client.distinct_iff (c : Client) (hminus : (c.selected.getD (-1, -1)).1 = -1) :
    c.distinct table ↔ c.luts table = [] ∨ ∃ lut, c.luts table = [lut] ∧ lut.id = .gammaMatrix := by
  unfold Client.distinct Client.luts
  cases hkey : c.selected with
  | none => simp
  | some key =>
    rw [hkey] at hminus
    constructor
    · exact fun hdist => hdist key rfl hminus
    · intro hluts other hother _
      cases hother
      exact hluts

theorem Agrees.matrix_parcel (h : Agrees table (d, c)) {matrix : Matrix} (htransform : c.transform = some matrix) :
    (finish d (d.cfMatrixHeader.bytes ++ d.cfMatrix.cStr) 1).1.parcel = parcelOf d.gHeaderBase [.ofMatrix matrix] := by
  obtain ⟨htext, hhdr⟩ : d.cfMatrix = _ ∧ d.cfMatrixHeader = _ := h.matrix matrix htransform
  rw [htext, hhdr]
  simpa [Lut.bytes] using finish_parcel d [.ofMatrix matrix]

theorem Agrees.matrixLut_roundTrips_iff (h : Agrees table (d, c)) (hen : d.matrixEn) (hmode : d.mode = -1) :
    RoundTrips (finish d (d.cfMatrixHeader.bytes ++ d.cfMatrix.cStr) 1).1.parcel (c.expected table) ↔
      parcelSize (c.expected table) < 2 ^ 16 ∧ c.distinct table := by
  have hsome : d.matrixEn = c.transform.isSome := h.matrixEn
  obtain ⟨matrix, htransform⟩ := isSome_iff_exists.mp (hsome ▸ hen)
  have hparcel := h.matrix_parcel htransform
  have hmat := Lut.size_ofMatrix matrix
  have hsize : parcelSize [.ofMatrix matrix] < 2 ^ 16 := by
    simp only [parcelSize, HEADER_SIZE, map_cons, List.map_nil, List.sum_cons, List.sum_nil]
    omega
  have hfits : ∀ lut ∈ [Lut.ofMatrix matrix], lut.size < 2 ^ 16 := by
    intro lut hlut
    rw [List.mem_singleton.mp hlut]
    exact hmat.trans_lt (by decide)
  have hminus : (c.selected.getD (-1, -1)).1 = -1 := by
    rw [← show (d.mode, d.intent) = c.selected.getD (-1, -1) from h.selected]
    exact hmode
  have hitems := withTransform_items_eq (c.luts table) matrix
  rw [← c.distinct_iff hminus] at hitems
  rw [hparcel, RoundTrips, walkParcel_of_parcelSize_lt h.headerSize hfits hsize, Client.expected, htransform]
  constructor
  · rintro ⟨last, hwalk⟩
    have hdist := hitems.mp (congrArg Prod.fst (Option.some.inj hwalk)).symm
    refine ⟨?_, hdist⟩
    rcases (c.distinct_iff hminus).mp hdist with hluts | ⟨lut, hluts, hid⟩
    · rw [hluts]
      exact hsize
    · rw [hluts, withTransform, if_pos (by simp [hid]), List.map_singleton, if_pos hid]
      exact hsize
  · rintro ⟨-, hdist⟩
    rw [hitems.mpr hdist]
    exact ⟨_, rfl⟩

theorem Agrees.roundTrips_iff (h : Agrees table (d, c)) (hret : (getDqeLut d).1.ret = 0) :
    RoundTrips (getDqeLut d).1.parcel (c.expected table) ↔
      parcelSize (c.expected table) < 2 ^ 16 ∧ c.distinct table := by
  have hselected : (d.mode, d.intent) = c.selected.getD (-1, -1) := h.selected
  unfold getDqeLut at hret ⊢
  split at hret
  · cases hret
  · rename_i hinit
    rw [if_neg hinit]
    split at hret
    · rename_i hmode
      rw [if_pos hmode]
      obtain ⟨hparcel, hfits⟩ := h.getModeLut hret
      cases hkey : c.selected with
      | none =>
        rw [hkey] at hselected
        exact absurd (congrArg Prod.fst hselected) hmode
      | some key =>
        rw [hkey] at hselected
        have hexp : withTransform (table (d.mode, d.intent)) c.transform = c.expected table := by
          rw [hselected, Client.expected, Client.luts, hkey]
          rfl
        have hdist : c.distinct table := by
          intro other hother hminus
          rw [hkey] at hother
          cases hother
          exact absurd ((congrArg Prod.fst hselected).trans hminus) hmode
        rw [hparcel, hexp, roundTrips_parcelOf h.headerSize (hexp ▸ hfits)]
        exact ⟨fun hsize => ⟨hsize, hdist⟩, fun hboth => hboth.1⟩
    · rename_i hmode
      rw [if_neg hmode]
      split at hret
      · rename_i hen
        rw [if_pos hen]
        split at hret
        · rename_i hagrees
          rw [if_pos hagrees]
          exact h.matrixLut_roundTrips_iff hen (not_not.mp hmode)
        · cases hret
      · cases hret

end

theorem insertNew_apply {α : Type} (m : Key → Option α) (key : Key) (value : α) (other : Key) :
    insertNew m key value other = (m other).or (if other = key then some value else none) := by
  unfold insertNew
  split
  · rename_i hsome
    obtain ⟨stored, hstored⟩ := isSome_iff_exists.mp hsome
    by_cases hother : other = key
    · rw [hother, hstored, Option.some_or]
    · rw [if_neg hother, or_none]
  · rename_i hnone
    rw [Function.update_apply]
    split
    · rename_i hother
      rw [hother, Option.not_isSome_iff_eq_none.mp hnone, none_or]
    · rw [or_none]

theorem lutNode_eq {node : XmlNode} {entry : Option (CString × DataHeader)} (h : lutNode node = some entry) :
    entry = (Lut.ofNode node).map Lut.stored := by
  unfold lutNode at h
  unfold Lut.ofNode
  split at h
  · rename_i hid
    cases h
    rw [hid]
    rfl
  · rename_i id hid
    obtain ⟨text, htext, h⟩ := unbind h
    obtain ⟨att0, h0, h⟩ := unbind h
    obtain ⟨att1, h1, h⟩ := unbind h
    obtain ⟨att2, h2, h⟩ := unbind h
    obtain ⟨att3, h3, h⟩ := unbind h
    cases h
    rw [hid, htext, h0, h1, h2, h3]
    rfl

theorem lutTable_eq {nodes : List XmlNode} {table : List (CString × DataHeader)} (h : lutTable nodes = some table) :
    table = (nodes.filterMap Lut.ofNode).map Lut.stored := by
  obtain ⟨entries, hentries, rfl⟩ := Option.map_eq_some_iff.mp h
  clear h
  induction nodes generalizing entries with
  | nil =>
    cases hentries
    rfl
  | cons node nodes ih =>
    rw [List.mapM_cons] at hentries
    obtain ⟨entry, hentry, hentries⟩ := unbind hentries
    obtain ⟨rest, hrest, hentries⟩ := unbind hentries
    cases hentries
    have hrest := ih rest hrest
    rw [lutNode_eq hentry, List.filterMap_cons]
    cases hlut : Lut.ofNode node with
    | none => exact hrest
    | some lut => exact congrArg (lut.stored :: ·) hrest

structure Added (found : Key → Option (List Lut)) (d t : Impl) : Prop where
  texts : ∀ key, t.dqeLutMap key = (d.dqeLutMap key).or ((found key).map (List.map Lut.text))
  headers : ∀ key, t.dqeLutHeaderMap key = (d.dqeLutHeaderMap key).or ((found key).map (List.map Lut.header))
  gHeaderBase : t.gHeaderBase = d.gHeaderBase
  mode : t.mode = d.mode
  intent : t.intent = d.intent
  matrixEn : t.matrixEn = d.matrixEn

theorem Added.nothing (d : Impl) : Added (fun _ => none) d d :=
  ⟨fun _ => (or_none).symm, fun _ => (or_none).symm, rfl, rfl, rfl, rfl⟩

theorem Added.trans {first second : Key → Option (List Lut)} {d t u : Impl} (h : Added first d t)
    (h' : Added second t u) : Added (fun key => (first key).or (second key)) d u := by
  refine ⟨fun key => ?_, fun key => ?_, h'.gHeaderBase.trans h.gHeaderBase, h'.mode.trans h.mode,
    h'.intent.trans h.intent, h'.matrixEn.trans h.matrixEn⟩
  · rw [h'.texts, h.texts, Option.or_assoc, Option.map_or]
  · rw [h'.headers, h.headers, Option.or_assoc, Option.map_or]

variable {sys : System} {displayId : Nat} {d t : Impl}

theorem addMode_added {cur : XmlNode} (h : addMode sys displayId d cur = some t) :
    Added (fun key => if isMode key cur then some (modeLuts sys displayId cur) else none) d t := by
  have hnothing (hnot : ∀ key, isMode key cur = false) :
      Added (fun key => if isMode key cur then some (modeLuts sys displayId cur) else none) d d := by
    simpa [hnot] using Added.nothing d
  unfold addMode at h
  split at h
  · rename_i hname
    cases h
    exact hnothing fun key => by simp [isMode, hname]
  · rename_i hname
    rw [not_not] at hname
    obtain ⟨key, hkey, h⟩ := unbind h
    cases key with
    | none =>
      cases h
      exact hnothing fun key => by simp [isMode, hkey]
    | some key =>
      obtain ⟨table, htable, h⟩ := unbind h
      cases h
      have htable : table = (modeLuts sys displayId cur).map Lut.stored := lutTable_eq htable
      have htexts : table.map Prod.fst = (modeLuts sys displayId cur).map Lut.text := by
        rw [htable, List.map_map]
        rfl
      have hheaders : table.map Prod.snd = (modeLuts sys displayId cur).map Lut.header := by
        rw [htable, List.map_map]
        rfl
      have hmode : ∀ other, isMode other cur = decide (other = key) := by
        intro other
        simp [isMode, hname, hkey, eq_comm]
      refine ⟨fun other => ?_, fun other => ?_, rfl, rfl, rfl, rfl⟩
      · show insertNew _ _ (table.map Prod.fst) other = _
        rw [insertNew_apply, htexts, hmode]
        by_cases hother : other = key <;> simp [hother]
      · show insertNew _ _ (table.map Prod.snd) other = _
        rw [insertNew_apply, hheaders, hmode]
        by_cases hother : other = key <;> simp [hother]

theorem foldlM_addMode {modes : List XmlNode} (h : modes.foldlM (addMode sys displayId) d = some t) :
    Added (fun key => (modes.find? (isMode key)).map (modeLuts sys displayId)) d t := by
  induction modes generalizing d with
  | nil =>
    cases h
    exact Added.nothing _
  | cons cur modes ih =>
    rw [List.foldlM_cons] at h
    obtain ⟨next, hnext, h⟩ := unbind h
    have hboth := (addMode_added hnext).trans (ih h)
    refine (funext fun key => ?_ : (fun key => ((cur :: modes).find? (isMode key)).map (modeLuts sys displayId)) =
      _) ▸ hboth
    rw [List.find?_cons]
    cases isMode key cur <;> rfl

def systemTable (sys : System) (displayId : Nat) : Table :=
  match colorModeDocument sys displayId with
  | some (some root) => calibration sys displayId root.children
  | _ => fun _ => []

theorem systemTable_of_document {root : XmlNode} (hroot : colorModeDocument sys displayId = some (some root)) :
    systemTable sys displayId = calibration sys displayId root.children := by
  simp only [systemTable, hroot]

theorem getD_map {α β : Type} (f : α → β) (entries : Option (List α)) :
    (entries.map (List.map f)).getD [] = (entries.getD []).map f := by
  cases entries <;> rfl

variable {d : Impl}

theorem Agrees.created (hcreated : createInstance sys displayId = some d)
    (hinit : d.initCompleted) : Agrees (systemTable sys displayId) (d, .fresh) := by
  unfold createInstance at hcreated
  split at hcreated
  · rename_i root hroot
    rw [systemTable_of_document hroot]
    split at hcreated
    · cases hcreated
      cases hinit
    · obtain ⟨built, hbuilt, hcreated⟩ := unbind hcreated
      cases hcreated
      have hadded := foldlM_addMode hbuilt
      refine ⟨fun key => ?_, fun key => ?_, ?_, ?_, hadded.matrixEn, nofun⟩
      · rw [hadded.texts, show initUtilityVariables.dqeLutMap key = none from rfl, none_or, getD_map]
        rfl
      · rw [hadded.headers, show initUtilityVariables.dqeLutHeaderMap key = none from rfl, none_or, getD_map]
        rfl
      · exact congrArg GlobalHeader.headerSize hadded.gHeaderBase
      · exact Prod.ext hadded.mode hadded.intent
  · cases hcreated
    cases hinit

variable {table : Table} {s : Impl × Client}

theorem Agrees.touchKey (h : Agrees table s) (key : Key) : Agrees table (touchKey s.1 key, s.2) := by
  refine { h with texts := fun other => ?_, headers := fun other => ?_ }
  · show (insertNew _ _ _ other).getD [] = _
    rw [← h.texts, insertNew_apply]
    cases s.1.dqeLutMap other with
    | some => rfl
    | none => split <;> rfl
  · show (insertNew _ _ _ other).getD [] = _
    rw [← h.headers, insertNew_apply]
    cases s.1.dqeLutHeaderMap other with
    | some => rfl
    | none => split <;> rfl

theorem Agrees.finish (h : Agrees table s) (data : List Byte) (count : Nat) :
    Agrees table ((finish s.1 data count).2, .fresh) :=
  ⟨h.texts, h.headers, h.headerSize, rfl, rfl, nofun⟩

theorem Agrees.step (h : Agrees table s) (call : Call) : Agrees table (step s call) := by
  cases call with
  | setColorMode mode => exact { h with selected := rfl }
  | setColorModeWithRenderIntent mode intent => exact { h with selected := rfl }
  | setColorTransform matrix =>
    simp only [DisplayColor.step, setColorTransform]
    refine ⟨h.texts, h.headers, h.headerSize, h.selected, rfl, fun other hother => ?_⟩
    have hsame : other = matrix := (Option.some.inj hother).symm
    rw [hsame]
    exact ⟨rfl, rfl⟩
  | getDqeLut =>
    show Agrees table ((getDqeLut s.1).2, if (getDqeLut s.1).1.ret = 0 then .fresh else s.2)
    unfold getDqeLut
    split
    · exact h
    · split
      · unfold DisplayColor.getModeLut
        dsimp only
        split
        · exact h.touchKey _
        · split
          · exact h.touchKey _
          · split <;> exact (h.touchKey _).finish _ _
      · split
        · split
          · exact h.finish _ _
          · exact h
        · exact h

theorem step_fixed (s : Impl × Client) (call : Call) :
    (step s call).1.initCompleted = s.1.initCompleted ∧ (step s call).1.dqeLutSize = s.1.dqeLutSize := by
  cases call with
  | setColorMode mode => exact ⟨rfl, rfl⟩
  | setColorModeWithRenderIntent mode intent => exact ⟨rfl, rfl⟩
  | setColorTransform matrix => simp only [step, setColorTransform, and_self]
  | getDqeLut =>
    simp only [step, getDqeLut, getModeLut]
    repeat' split
    all_goals exact ⟨rfl, rfl⟩

theorem run_fixed (s : Impl × Client) (calls : List Call) :
    (calls.foldl step s).1.initCompleted = s.1.initCompleted ∧ (calls.foldl step s).1.dqeLutSize = s.1.dqeLutSize := by
  induction calls generalizing s with
  | nil => exact ⟨rfl, rfl⟩
  | cons call calls ih =>
    obtain ⟨hinit, hsize⟩ := ih (step s call)
    exact ⟨hinit.trans (step_fixed s call).1, hsize.trans (step_fixed s call).2⟩

theorem Agrees.run (h : Agrees table s) (calls : List Call) : Agrees table (calls.foldl DisplayColor.step s) := by
  induction calls generalizing s with
  | nil => exact h
  | cons call calls ih => exact ih (h.step call)

theorem initCompleted_of_ret (hret : (getDqeLut d).1.ret = 0) : d.initCompleted := by
  by_contra hnot
  rw [getDqeLut, if_pos (by simpa using hnot)] at hret
  cases hret

/-- A parcel yields the LUTs of the mode and the transform exactly if its size has 16 bits and no key is ambiguous. -/
theorem roundTrips_run {sys : System} {displayId : Nat} {d : Impl} (hcreated : createInstance sys displayId = some d)
    (calls : List Call) (hret : (getDqeLut (calls.foldl step (d, .fresh)).1).1.ret = 0) :
    RoundTrips (getDqeLut (calls.foldl step (d, .fresh)).1).1.parcel
        ((calls.foldl step (d, .fresh)).2.expected (systemTable sys displayId)) ↔
      parcelSize ((calls.foldl step (d, .fresh)).2.expected (systemTable sys displayId)) < 2 ^ 16 ∧
        (calls.foldl step (d, .fresh)).2.distinct (systemTable sys displayId) := by
  have hinit : d.initCompleted := by
    rw [← (run_fixed (d, .fresh) calls).1]
    exact initCompleted_of_ret hret
  exact ((Agrees.created hcreated hinit).run calls).roundTrips_iff hret

def twoLuts (text : CString) : System := {
    targetName := none
    parseFile := fun name =>
      if name = "/vendor/etc/dqe/calib_data_colormode0.xml" then
        some (some (.node "Calib_Data" [] none [.node "mode"
            [("name", "native"), ("mode_id", "0"), ("gamut_name", "native"), ("gamut_id", "0"),
              ("intent_name", "colorimetric"), ("intent_id", "0")] none
            [.node "degamma" [("att0", "2")] (some text) [], .node "gamma" [] (some text) []]]))
      else none }

theorem created_twoLuts (text : CString) : ∃ d, createInstance (twoLuts text) 0 = some d ∧ d.initCompleted :=
  ⟨_, rfl, rfl⟩

theorem systemTable_twoLuts (text : CString) : systemTable (twoLuts text) 0 (0, 0) =
    [{ id := .degamma, attr := ⟨2#8, 255#8, 255#8, 255#8⟩, text },
      { id := .gamma, attr := ⟨255#8, 255#8, 255#8, 255#8⟩, text }] := rfl

def shortText : CString := ⟨[49#8, 44#8, 50#8], by decide⟩

def modeWithTransform : List Call := [.setColorTransform fun i => if i.val % 5 = 0 then 65536 else 0, .setColorMode 0]

theorem client_modeWithTransform (d : Impl) : (modeWithTransform.foldl step (d, .fresh)).2.selected = some (0, 0) := rfl

theorem roundTrips_run_modeWithTransform : ∃ d, createInstance (twoLuts shortText) 0 = some d ∧
      (getDqeLut (modeWithTransform.foldl step (d, .fresh)).1).1.ret = 0 ∧
      RoundTrips (getDqeLut (modeWithTransform.foldl step (d, .fresh)).1).1.parcel
        ((modeWithTransform.foldl step (d, .fresh)).2.expected (systemTable (twoLuts shortText) 0)) := by
  refine ⟨_, rfl, by decide, (roundTrips_run rfl modeWithTransform (by decide)).mpr ⟨?_, ?_⟩⟩
  · decide
  · intro key hkey hminus
    rw [client_modeWithTransform, Option.mem_some] at hkey
    rw [← hkey] at hminus
    cases hminus

def longText : CString := ⟨List.replicate 40000 49#8, fun hmem => absurd (List.eq_of_mem_replicate hmem) (by decide)⟩

theorem not_roundTrips_twoLongLuts :
    ¬∀ (sys : System) (displayId : Nat) (d : Impl), createInstance sys displayId = some d → ∀ calls : List Call,
      (getDqeLut (calls.foldl step (d, .fresh)).1).1.ret = 0 →
      RoundTrips (getDqeLut (calls.foldl step (d, .fresh)).1).1.parcel
        ((calls.foldl step (d, .fresh)).2.expected (systemTable sys displayId)) := by
  intro h
  obtain ⟨d, hcreated, hinit⟩ := created_twoLuts longText
  have hagrees := (Agrees.created hcreated hinit).run [.setColorMode 0]
  have htable := systemTable_twoLuts longText
  have hsize : longText.size = 40000 := List.length_replicate
  have hret : (getDqeLut (setColorMode d 0)).1.ret = 0 := by
    refine Agrees.getDqeLut_ret hagrees hinit nofun ?_
    intro lut hlut
    have hlut : lut ∈ systemTable (twoLuts longText) 0 (0, 0) := hlut
    rw [htable] at hlut
    have htext : lut.text = longText := by
      rcases List.mem_pair.mp hlut with rfl | rfl <;> rfl
    show HEADER_SIZE + (lut.text.size + 1) < 2 ^ 16
    rw [htext, hsize]
    decide
  have hfits := ((hagrees.roundTrips_iff hret).mp (h _ _ _ hcreated [.setColorMode 0] hret)).1
  have hexp : parcelSize (systemTable (twoLuts longText) 0 (0, 0)) < 2 ^ 16 := hfits
  rw [htable] at hexp
  simp [parcelSize, Lut.size, HEADER_SIZE, hsize] at hexp

end ExynosHal.DisplayColor
