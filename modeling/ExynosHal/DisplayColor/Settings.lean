import Mathlib.Data.List.TakeWhile
import ExynosHal.DisplayColor.RoundTrip

/-! # Pending settings and the room for them

What the setters have left goes into one parcel, for which the caller has `getDqeLutSize` bytes.
-/

namespace ExynosHal.DisplayColor
open Library.Run (unbind)
open Library.BitString
open List (map_cons sum_cons)
open BitVec (add_zero ofNat)

/-- The mode -1 stands for none. -/
def Client.pending (c : Client) : Option Key := c.selected.filter fun key => key.1 ≠ -1

def Client.pendingLuts (c : Client) (table : Table) : List Lut := withTransform (c.pending.elim [] table) c.transform

def globalHeader (seqNum : Byte) : GlobalHeader := { initUtilityVariables.gHeaderBase with seqNum }

def settingsParcel (table : Table) (seqNum : Byte) (c : Client) : List Byte :=
  parcelOf (globalHeader seqNum) (c.pendingLuts table)

structure Unsent where
  mode : U32
  intent : U32
  matrixEn : Bool
  cfMatrix : CString
  cfMatrixHeader : DataHeader
  seqNum : Byte

def Impl.unsent (d : Impl) : Unsent :=
  ⟨d.mode, d.intent, d.matrixEn, d.cfMatrix, d.cfMatrixHeader, d.gHeaderBase.seqNum⟩

structure AppliedOnce (table : Table) (s : Impl × Client) : Prop where
  applied : (getDqeLut s.1).1.ret = 0 ↔
    (s.2.pending.isSome ∨ s.2.transform.isSome) ∧ ∀ lut ∈ s.2.pendingLuts table, lut.size < 2 ^ 16
  parcel : (getDqeLut s.1).1.ret = 0 → (getDqeLut s.1).1.parcel = settingsParcel table s.1.gHeaderBase.seqNum s.2
  kept : (getDqeLut s.1).1.ret ≠ 0 → (getDqeLut s.1).1.ret = -1 ∧ (getDqeLut s.1).2.unsent = s.1.unsent
  once : (getDqeLut s.1).1.ret = 0 →
    ∀ n, (getDqeLut ((List.replicate n .getDqeLut).foldl step (step s .getDqeLut)).1).1.ret = -1

def sentParcel (s : Impl × Client) : Call → Option (List Byte)
  | .getDqeLut => if (getDqeLut s.1).1.ret = 0 then some (getDqeLut s.1).1.parcel else none
  | _ => none

/-- The parcels of the successful calls of a run. -/
def parcels : Impl × Client → List Call → List (List Byte)
  | _, [] => []
  | s, call :: calls => (sentParcel s call).toList ++ parcels (step s call) calls

variable {table : Table} {d : Impl} {c : Client} {s : Impl × Client}

theorem getDqeLut_failed (h : (getDqeLut d).1.ret ≠ 0) :
    (getDqeLut d).1.ret = -1 ∧ (getDqeLut d).2.unsent = d.unsent := by
  unfold getDqeLut getModeLut finish at h ⊢
  dsimp only at h ⊢
  repeat' split
  all_goals first | exact ⟨rfl, rfl⟩ | simp_all

theorem getDqeLut_succeeded (h : (getDqeLut d).1.ret = 0) :
    ∃ t : Impl, (getDqeLut d).2 = clearDqeLut t ∧ t.gHeaderBase.seqNum = d.gHeaderBase.seqNum ∧
      (getDqeLut d).1.header.length = HEADER_SIZE := by
  unfold getDqeLut getModeLut finish at h ⊢
  dsimp only at h ⊢
  repeat' split
  all_goals first | exact ⟨_, rfl, rfl, length_globalHeaderBytes _⟩ | simp_all [Output.failed]

theorem getDqeLut_idle (hmode : d.mode = -1) (hen : d.matrixEn = false) : getDqeLut d = (.failed [], d) := by
  simp [getDqeLut, hmode, hen]

theorem step_idle (hmode : s.1.mode = -1) (hen : s.1.matrixEn = false) : step s .getDqeLut = s := by
  rw [step, getDqeLut_idle hmode hen]
  rfl

theorem run_idle (hmode : s.1.mode = -1) (hen : s.1.matrixEn = false) (n : Nat) :
    (List.replicate n .getDqeLut).foldl step s = s := by
  induction n with
  | zero => rfl
  | succ n ih => rw [List.replicate_succ, List.foldl_cons, step_idle hmode hen, ih]

theorem once_of_succeeded (h : (getDqeLut s.1).1.ret = 0) (n : Nat) :
    (getDqeLut ((List.replicate n .getDqeLut).foldl step (step s .getDqeLut)).1).1.ret = -1 := by
  obtain ⟨t, hcleared, -, -⟩ := getDqeLut_succeeded h
  have hmode : (step s .getDqeLut).1.mode = -1 := by
    rw [step, hcleared]
    rfl
  have hen : (step s .getDqeLut).1.matrixEn = false := by
    rw [step, hcleared]
    rfl
  rw [run_idle hmode hen, getDqeLut_idle hmode hen]
  rfl

theorem Agrees.pending_eq (h : Agrees table (d, c)) :
    c.pending = if d.mode = -1 then none else some (d.mode, d.intent) := by
  have hselected : (d.mode, d.intent) = c.selected.getD (-1, -1) := h.selected
  unfold Client.pending
  cases hkey : c.selected with
  | none =>
    rw [hkey] at hselected
    have hmode : d.mode = -1 := congrArg Prod.fst hselected
    rw [if_pos hmode]
    rfl
  | some key =>
    rw [hkey] at hselected
    obtain rfl : (d.mode, d.intent) = key := hselected
    split <;> simp_all

theorem Agrees.parcel (h : Agrees table (d, c)) (hret : (getDqeLut d).1.ret = 0) :
    (getDqeLut d).1.parcel = parcelOf d.gHeaderBase (c.pendingLuts table) ∧
      ∀ lut ∈ c.pendingLuts table, lut.size < 2 ^ 16 := by
  have hpend := h.pending_eq
  unfold Client.pendingLuts
  unfold getDqeLut at hret ⊢
  split at hret
  · cases hret
  · rename_i hinit
    rw [if_neg hinit]
    split at hret
    · rename_i hmode
      rw [hpend, if_neg hmode, if_pos hmode]
      exact h.getModeLut hret
    · rename_i hmode
      rw [hpend, if_pos (not_not.mp hmode), if_neg hmode]
      split at hret
      · rename_i hen
        have hsome : d.matrixEn = c.transform.isSome := h.matrixEn
        obtain ⟨matrix, htransform⟩ := Option.isSome_iff_exists.mp (hsome ▸ hen)
        rw [if_pos hen]
        split at hret
        · rename_i hagrees
          rw [if_pos hagrees, h.matrix_parcel htransform, htransform]
          refine ⟨rfl, fun lut hlut => ?_⟩
          rw [List.mem_singleton.mp hlut]
          exact (Lut.size_ofMatrix matrix).trans_lt (by decide)
        · cases hret
      · cases hret

variable {luts : List Lut} {transform : Option Matrix} {lut : Lut}

theorem replaced_mem_withTransform (hlut : lut ∈ luts) :
    replaced transform lut ∈ withTransform luts transform := by
  have hmem := List.mem_map_of_mem (f := replaced transform) hlut
  by_cases hmat : transform.isSome → luts.any (·.id = .gammaMatrix)
  · rwa [withTransform_of_hasMatrix hmat]
  · obtain ⟨hsome, hnone⟩ := Classical.not_imp.mp hmat
    obtain ⟨matrix, rfl⟩ := Option.isSome_iff_exists.mp hsome
    obtain ⟨hsame, hwith⟩ := @withTransform_of_not_hasMatrix _ matrix (Bool.eq_false_iff.mpr hnone)
    rw [hsame] at hmem
    rw [hwith]
    exact List.mem_append_left _ hmem

theorem Agrees.getDqeLut_ret_iff (h : Agrees table (d, c)) (hinit : d.initCompleted) : (getDqeLut d).1.ret = 0 ↔
      (c.pending.isSome ∨ c.transform.isSome) ∧ ∀ lut ∈ c.pendingLuts table, lut.size < 2 ^ 16 := by
  have hpend := h.pending_eq
  have hen : d.matrixEn = c.transform.isSome := h.matrixEn
  constructor
  · intro hret
    refine ⟨?_, (h.parcel hret).2⟩
    by_contra hnone
    obtain ⟨hmode, htransform⟩ := not_or.mp hnone
    have hmode : d.mode = -1 := by
      by_contra hset
      rw [hpend, if_neg hset] at hmode
      exact hmode rfl
    rw [getDqeLut_idle hmode (hen.trans (Bool.eq_false_iff.mpr htransform))] at hret
    cases hret
  · rintro ⟨hsome, hfits⟩
    rw [Client.pendingLuts, hpend] at hfits
    by_cases hmode : d.mode = -1
    · rw [hpend, if_pos hmode] at hsome
      have htransform : c.transform.isSome := hsome.resolve_left nofun
      obtain ⟨matrix, hmat⟩ := Option.isSome_iff_exists.mp htransform
      obtain ⟨htext, hhdr⟩ : d.cfMatrix = _ ∧ d.cfMatrixHeader = _ := h.matrix matrix hmat
      have hagrees : sizeAgrees d.cfMatrix d.cfMatrixHeader := by
        rw [htext, hhdr]
        exact (sizeAgrees_header _).mpr ((Lut.size_ofMatrix matrix).trans_lt (by decide))
      rw [getDqeLut, if_neg (by simp [hinit]), if_neg (not_not.mpr hmode), if_pos (hen.trans htransform),
        if_pos hagrees]
      rfl
    · rw [if_neg hmode] at hfits
      exact h.getDqeLut_ret hinit hmode fun lut hlut => hfits _ (replaced_mem_withTransform hlut)

def Impl.blankHeader (d : Impl) : GlobalHeader := { d.gHeaderBase with totalSize := 0, numData := 0 }

theorem getDqeLut_blankHeader (d : Impl) : (getDqeLut d).2.blankHeader = d.blankHeader ∨
      (getDqeLut d).2.blankHeader = { d.blankHeader with seqNum := d.gHeaderBase.seqNum + 1 } := by
  unfold getDqeLut getModeLut finish
  dsimp only
  repeat' split
  all_goals first | exact .inl rfl | exact .inr rfl

def Blank (s : Impl × Client) : Prop := s.1.blankHeader = globalHeader s.1.gHeaderBase.seqNum

theorem Blank.step (h : Blank s) (call : Call) : Blank (step s call) := by
  cases call with
  | setColorMode | setColorModeWithRenderIntent => exact h
  | setColorTransform matrix =>
    simp only [DisplayColor.step, setColorTransform]
    unfold Blank Impl.blankHeader at h ⊢
    exact h
  | getDqeLut =>
    show (getDqeLut s.1).2.blankHeader = globalHeader (getDqeLut s.1).2.blankHeader.seqNum
    unfold Blank at h
    rcases getDqeLut_blankHeader s.1 with hsame | hnext
    · rw [hsame]
      exact h
    · rw [hnext, h]
      rfl

theorem Blank.run (h : Blank s) (calls : List Call) : Blank (calls.foldl DisplayColor.step s) := by
  induction calls generalizing s with
  | nil => exact h
  | cons call calls ih => exact ih (h.step call)

theorem Agrees.settingsParcel (h : Agrees table s) (hblank : Blank s) (hret : (getDqeLut s.1).1.ret = 0) :
    (getDqeLut s.1).1.parcel = settingsParcel table s.1.gHeaderBase.seqNum s.2 := by
  have hparcel (header : GlobalHeader) (luts : List Lut) :
      parcelOf header luts = parcelOf { header with totalSize := 0, numData := 0 } luts := rfl
  rw [(h.parcel hret).1, hparcel]
  exact congrArg (parcelOf · _) hblank

theorem Agrees.appliedOnce (h : Agrees table s) (hblank : Blank s) (hinit : s.1.initCompleted) :
    AppliedOnce table s where
  applied := h.getDqeLut_ret_iff hinit
  parcel := h.settingsParcel hblank
  kept := getDqeLut_failed
  once := once_of_succeeded

theorem step_seqNum (s : Impl × Client) (call : Call) :
    (step s call).1.gHeaderBase.seqNum = s.1.gHeaderBase.seqNum + ofNat 8 (sentParcel s call).toList.length := by
  cases call with
  | setColorMode | setColorModeWithRenderIntent => exact (add_zero _).symm
  | setColorTransform matrix =>
    simp only [step, setColorTransform]
    exact (add_zero _).symm
  | getDqeLut =>
    rw [step, sentParcel]
    split
    · rename_i hret
      obtain ⟨t, hcleared, hseqNum, -⟩ := getDqeLut_succeeded hret
      rw [hcleared, ← hseqNum]
      rfl
    · rename_i hret
      exact (congrArg Unsent.seqNum (getDqeLut_failed hret).2).trans (add_zero _).symm

theorem parcels_numbered (h : Agrees table s) (hblank : Blank s) (calls : List Call) (i : Nat) (parcel : List Byte)
    (hparcel : (parcels s calls)[i]? = some parcel) : parcel[1]? = some (s.1.gHeaderBase.seqNum + ofNat 8 i) := by
  induction calls generalizing s i with
  | nil => cases hparcel
  | cons call calls ih =>
    have hrest := ih (h.step call) (hblank.step call)
    rw [step_seqNum] at hrest
    rw [parcels] at hparcel
    cases hcall : sentParcel s call with
    | none =>
      rw [hcall] at hparcel hrest
      simpa using hrest i hparcel
    | some first =>
      rw [hcall] at hparcel hrest
      cases i with
      | zero =>
        cases hparcel
        cases call with
        | setColorMode | setColorModeWithRenderIntent | setColorTransform => cases hcall
        | getDqeLut =>
          obtain ⟨hret, hcall⟩ := Option.ite_none_right_eq_some.mp hcall
          cases hcall
          rw [h.settingsParcel hblank hret]
          simp [settingsParcel, parcelOf, GlobalHeader.bytes, globalHeader]
      | succ i =>
        rw [hrest i hparcel, Option.toList_some, List.length_singleton, BitVec.add_assoc, ← BitVec.ofNat_add,
          Nat.add_comm]

theorem Blank.created {sys : System} {displayId : Nat} (hcreated : createInstance sys displayId = some d) :
    Blank (d, .fresh) ∧ d.gHeaderBase.seqNum = 0 := by
  have hbase : d.gHeaderBase = initUtilityVariables.gHeaderBase := by
    unfold createInstance at hcreated
    split at hcreated
    · split at hcreated
      · cases hcreated
        rfl
      · obtain ⟨built, hbuilt, hcreated⟩ := unbind hcreated
        cases hcreated
        exact (foldlM_addMode hbuilt).gHeaderBase
    · cases hcreated
      rfl
  unfold Blank Impl.blankHeader
  rw [hbase]
  exact ⟨rfl, rfl⟩

variable {sys : System} {displayId : Nat}

/-- A pending setting is in the next parcel unless a LUT is too long for it, and in that parcel only. -/
theorem appliedOnce_run (hcreated : createInstance sys displayId = some d) (hinit : d.initCompleted)
    (calls : List Call) : AppliedOnce (systemTable sys displayId) (calls.foldl step (d, .fresh)) ∧
      ∀ i parcel, (parcels (d, .fresh) calls)[i]? = some parcel → parcel[1]? = some (ofNat 8 i) := by
  have hagrees := Agrees.created hcreated hinit
  obtain ⟨hblank, hseqNum⟩ := Blank.created hcreated
  have hinit := (run_fixed (d, .fresh) calls).1.trans hinit
  refine ⟨(hagrees.run calls).appliedOnce (hblank.run calls) hinit, fun i parcel hparcel => ?_⟩
  have hnum := parcels_numbered hagrees hblank calls i parcel hparcel
  simpa [hseqNum] using hnum

/-- A mode with a transform, then a transform alone, then a mode that is still pending. -/
def threeSettings : List Call :=
  modeWithTransform ++ [.getDqeLut, .getDqeLut, .setColorTransform fun _ => 1, .getDqeLut, .setColorMode 0]

theorem appliedOnce_run_threeSettings : ∃ d, createInstance (twoLuts shortText) 0 = some d ∧
      (parcels (d, .fresh) threeSettings).map (·[1]?) = [some 0, some 1] ∧
      (getDqeLut (threeSettings.foldl step (d, .fresh)).1).1.ret = 0 ∧
      AppliedOnce (systemTable (twoLuts shortText) 0) (threeSettings.foldl step (d, .fresh)) ∧
      ∀ i parcel, (parcels (d, .fresh) threeSettings)[i]? = some parcel → parcel[1]? = some (ofNat 8 i) := by
  have hcreated : createInstance (twoLuts shortText) 0 = some _ := rfl
  exact ⟨_, hcreated, by decide, by decide, appliedOnce_run hcreated rfl threeSettings⟩

/-! ### The room in the parcel -/

def getDqeLutSize (d : Impl) : Nat := d.dqeLutSize

def Output.reach (out : Output) : Nat := if out.data = [] then out.header.length else HEADER_SIZE + out.data.length

def Client.written (c : Client) (table : Table) : List Lut := (c.pendingLuts table).takeWhile (·.size < 2 ^ 16)

def Client.copies (c : Client) (table : Table) : Nat := (c.written table).countP (·.id = .gammaMatrix)

def Client.others (c : Client) (table : Table) : Nat :=
  (((c.written table).filter (·.id ≠ .gammaMatrix)).map Lut.size).sum

def numeralLength (value : Int32) : Nat := (CString.toString value.toInt).size

def TransformFits (c : Client) (table : Table) (room : Nat) : Prop :=
  ∀ matrix ∈ c.transform, HEADER_SIZE + c.copies table *
    (30 + ((List.finRange 16).map fun i => numeralLength (matrix i)).sum) + c.others table ≤ room

theorem size_matrixText (matrix : Matrix) :
    (matrixText matrix).size = 17 + ((List.finRange 16).map fun i => numeralLength (matrix i)).sum := by
  have hstep (entry : CString) (i : Fin 16) :
      CString.size (let value := entry.append (CString.toString (matrix i).toInt); if i ≠
        15 then value.append .comma else value) =
        entry.size + (numeralLength (matrix i) + if i ≠ 15 then 1 else 0) := by
    dsimp only
    split
    · rw [CString.size_append, CString.size_append, Nat.add_assoc]
      rfl
    · rw [CString.size_append]
      rfl
  have hfold (indices : List (Fin 16)) (entry : CString) : (indices.foldl (fun entry i =>
        let value := entry.append (CString.toString (matrix i).toInt)
        if i ≠ 15 then value.append .comma else value) entry).size =
      entry.size + (indices.map fun i => numeralLength (matrix i) + if i ≠ 15 then 1 else 0).sum := by
    induction indices generalizing entry with
    | nil => rfl
    | cons i indices ih => rw [List.foldl_cons, ih, hstep, map_cons, sum_cons, Nat.add_assoc]
  rw [matrixText, hfold, List.sum_map_add]
  have htext : ((CString.toString 1).append .comma).size = 2 := by decide
  have hcommas : ((List.finRange 16).map fun i => if i ≠ 15 then 1 else 0).sum = 15 := by decide
  omega

theorem Lut.size_ofMatrix_eq (matrix : Matrix) :
    (Lut.ofMatrix matrix).size = 30 + ((List.finRange 16).map fun i => numeralLength (matrix i)).sum := by
  show HEADER_SIZE + ((matrixText matrix).size + 1) = _
  rw [size_matrixText, HEADER_SIZE]
  omega

theorem Agrees.emitTable_data (h : Agrees table (d, c)) (hasMatrix : Bool) (luts : List Lut) :
    (emitTable d hasMatrix (luts.map Lut.stored)).data =
      ((luts.map (replaced c.transform)).takeWhile (·.size < 2 ^ 16)).flatMap Lut.bytes := by
  induction luts generalizing hasMatrix with
  | nil => rfl
  | cons lut luts ih =>
    rw [map_cons, h.emitTable_cons, map_cons, List.takeWhile_cons]
    split
    · rename_i hfits
      rw [if_pos (by simpa using hfits), List.flatMap_cons, Emitted.after]
      exact congrArg (_ ++ ·) (ih _)
    · rename_i hlong
      rw [if_neg (by simpa using hlong)]
      rfl

theorem takeWhile_withTransform (h : ¬∀ lut ∈ luts.map (replaced transform), lut.size < 2 ^ 16) :
    (withTransform luts transform).takeWhile (·.size < 2 ^ 16) =
      (luts.map (replaced transform)).takeWhile (·.size < 2 ^ 16) := by
  by_cases hmat : transform.isSome → luts.any (·.id = .gammaMatrix)
  · rw [withTransform_of_hasMatrix hmat]
  · obtain ⟨hsome, hnone⟩ := Classical.not_imp.mp hmat
    obtain ⟨matrix, rfl⟩ := Option.isSome_iff_exists.mp hsome
    obtain ⟨hsame, hwith⟩ := @withTransform_of_not_hasMatrix _ matrix (Bool.eq_false_iff.mpr hnone)
    rw [hsame] at h ⊢
    rw [hwith, List.takeWhile_append, if_neg]
    intro hlen
    have hall := (List.takeWhile_prefix fun lut : Lut => decide (lut.size < 2 ^ 16)).eq_of_length hlen
    exact h (by simpa using List.takeWhile_eq_self_iff.mp hall)

theorem Agrees.data_eq (h : Agrees table (d, c)) (hinit : d.initCompleted) :
    (getDqeLut d).1.data = (c.written table).flatMap Lut.bytes := by
  unfold Client.written
  by_cases hret : (getDqeLut d).1.ret = 0
  · obtain ⟨hparcel, hfits⟩ := h.parcel hret
    obtain ⟨t, -, -, hhdr⟩ := getDqeLut_succeeded hret
    rw [List.takeWhile_eq_self_iff.mpr (by simpa using hfits)]
    exact (List.append_inj hparcel (hhdr.trans (length_globalHeaderBytes _).symm)).2
  · unfold Client.pendingLuts
    rw [h.pending_eq]
    have hsome : d.matrixEn = c.transform.isSome := h.matrixEn
    unfold getDqeLut at hret ⊢
    rw [if_neg (by simp [hinit])] at hret ⊢
    split at hret
    · rename_i hmode
      rw [if_pos hmode, if_neg hmode]
      rw [h.getModeLut_eq] at hret ⊢
      dsimp only at hret ⊢
      split at hret
      · rename_i hlong
        rw [if_pos hlong]
        refine (h.emitTable_data false _).trans (congrArg _ (takeWhile_withTransform fun hfits => ?_).symm)
        rw [h.emitTable_ok (List.forall_mem_map.mp hfits)] at hlong
        cases hlong
      · exact absurd (by split <;> rfl) hret
    · rename_i hmode
      rw [if_neg hmode, if_pos (not_not.mp hmode)]
      split at hret
      · rename_i hen
        obtain ⟨matrix, htransform⟩ := Option.isSome_iff_exists.mp (hsome ▸ hen)
        obtain ⟨htext, hhdr⟩ : d.cfMatrix = _ ∧ d.cfMatrixHeader = _ := h.matrix matrix htransform
        rw [if_pos] at hret
        · exact absurd rfl hret
        · rw [htext, hhdr]
          exact (sizeAgrees_header _).mpr ((Lut.size_ofMatrix matrix).trans_lt (by decide))
      · rename_i hen
        have hnone : c.transform = none := by simpa [hsome] using hen
        rw [if_neg hen, hnone]
        rfl

theorem Agrees.reach_le_iff (h : Agrees table (d, c)) (hinit : d.initCompleted) {room : Nat}
    (hroom : HEADER_SIZE ≤ room) :
    (getDqeLut d).1.reach ≤ room ↔ HEADER_SIZE + ((c.written table).map Lut.size).sum ≤ room := by
  have hdata := h.data_eq hinit
  rw [← length_flatMap_bytes, ← hdata, Output.reach]
  split
  · rename_i hnil
    have hhdr : (getDqeLut d).1.header.length ≤ HEADER_SIZE := by
      unfold getDqeLut DisplayColor.getModeLut DisplayColor.finish Output.failed
      dsimp only
      repeat' split
      all_goals simp [length_globalHeaderBytes]
    rw [hnil]
    exact iff_of_true (hhdr.trans hroom) hroom
  · exact Iff.rfl

theorem sum_takeWhile_le (luts : List Lut) :
    ((luts.takeWhile (·.size < 2 ^ 16)).map Lut.size).sum ≤ (luts.map fun lut => lut.size % 2 ^ 16).sum := by
  induction luts with
  | nil => exact le_rfl
  | cons lut luts ih =>
    rw [List.takeWhile_cons]
    split
    · rename_i hfits
      rw [map_cons, map_cons, sum_cons, sum_cons, Nat.mod_eq_of_lt (of_decide_eq_true hfits)]
      exact Nat.add_le_add_left ih _
    · exact Nat.zero_le _

theorem sum_copies {copy : Lut} (h : ∀ lut ∈ luts, lut.id = .gammaMatrix → lut = copy) :
    (luts.map Lut.size).sum = luts.countP (·.id = .gammaMatrix) * copy.size +
      ((luts.filter (·.id ≠ .gammaMatrix)).map Lut.size).sum := by
  induction luts with
  | nil => simp
  | cons lut luts ih =>
    obtain ⟨hlut, hluts⟩ := List.forall_mem_cons.mp h
    rw [map_cons, sum_cons, ih hluts]
    by_cases hid : lut.id = .gammaMatrix
    · rw [List.countP_cons_of_pos (by simpa using hid), List.filter_cons_of_neg (by simpa using hid), hlut hid,
        Nat.succ_mul]
      omega
    · rw [List.countP_cons_of_neg (by simpa using hid), List.filter_cons_of_pos (by simpa using hid), map_cons,
        sum_cons]
      omega

theorem eq_ofMatrix_of_mem {matrix : Matrix} (hlut : lut ∈ withTransform luts (some matrix))
    (hid : lut.id = .gammaMatrix) : lut = .ofMatrix matrix := by
  rw [withTransform] at hlut
  split at hlut
  · obtain ⟨old, -, rfl⟩ := List.mem_map.mp hlut
    split at hid
    · rename_i hgamma
      rw [if_pos hgamma]
    · rename_i hother
      exact absurd hid hother
  · rename_i hnone
    rcases List.mem_append.mp hlut with hlut | hlut
    · exact absurd (List.any_eq_true.mpr ⟨lut, hlut, by simpa using hid⟩) hnone
    · exact List.mem_singleton.mp hlut

def Roomy (table : Table) (room : Nat) : Prop :=
  ∀ key, HEADER_SIZE + (HEADER_SIZE + TRANSFORM_MATRIX_DATA_SIZE) + ((table key).map fun lut => lut.size % 2 ^ 16).sum ≤
    room

theorem Roomy.written_iff {room : Nat} (h : Roomy table room) (c : Client) :
    HEADER_SIZE + ((c.written table).map Lut.size).sum ≤ room ↔ TransformFits c table room := by
  unfold TransformFits
  cases htransform : c.transform with
  | none =>
    refine iff_of_true ?_ nofun
    unfold Client.written Client.pendingLuts
    rw [htransform]
    show HEADER_SIZE + (((c.pending.elim [] table).takeWhile (·.size < 2 ^ 16)).map Lut.size).sum ≤ room
    have hle := sum_takeWhile_le (c.pending.elim [] table)
    have hsum : HEADER_SIZE + ((c.pending.elim [] table).map fun lut => lut.size % 2 ^ 16).sum ≤ room := by
      cases c.pending with
      | none => exact (Nat.le_add_right _ _).trans ((Nat.le_add_right _ _).trans (h 0))
      | some key => exact (Nat.add_le_add_right (Nat.le_add_right _ _) _).trans (h key)
    omega
  | some matrix =>
    have hcopies : ∀ lut ∈ c.written table, lut.id = .gammaMatrix → lut = .ofMatrix matrix := by
      intro lut hlut hid
      have hmem := (List.takeWhile_sublist _).subset hlut
      rw [Client.pendingLuts, htransform] at hmem
      exact eq_ofMatrix_of_mem hmem hid
    have hsum := sum_copies hcopies
    rw [Lut.size_ofMatrix_eq] at hsum
    rw [hsum, ← Nat.add_assoc]
    constructor
    · intro hfits other hother
      cases hother
      exact hfits
    · exact fun hfits => hfits matrix rfl

theorem addMode_roomy {t : Impl} {cur : XmlNode} (h : addMode sys displayId d cur = some t) :
    d.dqeLutSize ≤ t.dqeLutSize ∧ ∀ key, isMode key cur → HEADER_SIZE + (HEADER_SIZE + TRANSFORM_MATRIX_DATA_SIZE) +
      ((modeLuts sys displayId cur).map fun lut => lut.size % 2 ^ 16).sum ≤ t.dqeLutSize := by
  unfold addMode at h
  split at h
  · rename_i hname
    cases h
    exact ⟨le_rfl, fun key hkey => by simp [isMode, hname] at hkey⟩
  · obtain ⟨found, hfound, h⟩ := unbind h
    cases found with
    | none =>
      cases h
      exact ⟨le_rfl, fun key hkey => by simp [isMode, hfound] at hkey⟩
    | some found =>
      obtain ⟨entries, hentries, h⟩ := unbind h
      cases h
      have hsizes : (entries.map fun entry => entry.2.totalSize.toNat) =
          (modeLuts sys displayId cur).map fun lut => lut.size % 2 ^ 16 := by
        rw [lutTable_eq hentries, List.map_map]
        exact List.map_congr_left fun lut _ => BitVec.toNat_ofNat ..
      refine ⟨le_max_left _ _, fun key _ => ?_⟩
      rw [← hsizes]
      exact le_max_right _ _

theorem foldlM_addMode_roomy {modes : List XmlNode} {t : Impl} (h : modes.foldlM (addMode sys displayId) d = some t)
    (hbase : HEADER_SIZE + (HEADER_SIZE + TRANSFORM_MATRIX_DATA_SIZE) ≤ d.dqeLutSize) :
    d.dqeLutSize ≤ t.dqeLutSize ∧ Roomy (calibration sys displayId modes) t.dqeLutSize := by
  induction modes generalizing d with
  | nil =>
    cases h
    exact ⟨le_rfl, fun key => hbase⟩
  | cons cur modes ih =>
    rw [List.foldlM_cons] at h
    obtain ⟨next, hnext, h⟩ := unbind h
    obtain ⟨hle, hmode⟩ := addMode_roomy hnext
    obtain ⟨hle', hroomy⟩ := ih h (hbase.trans hle)
    refine ⟨hle.trans hle', fun key => ?_⟩
    rw [calibration, List.find?_cons]
    split
    · rename_i hkey
      exact (hmode key hkey).trans hle'
    · exact hroomy key

theorem Roomy.created (hcreated : createInstance sys displayId = some d) (hinit : d.initCompleted) :
    Roomy (systemTable sys displayId) d.dqeLutSize := by
  unfold createInstance at hcreated
  split at hcreated
  · rename_i root hroot
    rw [systemTable_of_document hroot]
    split at hcreated
    · cases hcreated
      cases hinit
    · obtain ⟨built, hbuilt, hcreated⟩ := unbind hcreated
      cases hcreated
      exact (foldlM_addMode_roomy hbuilt (by decide)).2
  · cases hcreated
    cases hinit

/-- The parcel stays inside of the announced size exactly if the pending transform fits its allowance. -/
theorem parcel_fits_iff (hcreated : createInstance sys displayId = some d) (calls : List Call) :
    (getDqeLut (calls.foldl step (d, .fresh)).1).1.reach ≤ getDqeLutSize (calls.foldl step (d, .fresh)).1 ↔
      (d.initCompleted →
        TransformFits (calls.foldl step (d, .fresh)).2 (systemTable sys displayId) (getDqeLutSize d)) := by
  obtain ⟨hfixed, hsize⟩ := run_fixed (d, .fresh) calls
  rw [getDqeLutSize, hsize]
  by_cases hinit : d.initCompleted
  · have hroomy := Roomy.created hcreated hinit
    have hagrees := (Agrees.created hcreated hinit).run calls
    have hbase : HEADER_SIZE ≤ d.dqeLutSize := (Nat.le_add_right _ _).trans ((Nat.le_add_right _ _).trans (hroomy 0))
    rw [hagrees.reach_le_iff (hfixed.trans hinit) hbase, hroomy.written_iff]
    exact ⟨fun hfits _ => hfits, fun hfits => hfits hinit⟩
  · have hnone : (getDqeLut (calls.foldl step (d, .fresh)).1).1 = .failed [] := by
      rw [getDqeLut, if_pos (hfixed.trans (Bool.eq_false_iff.mpr hinit))]
    rw [hnone]
    exact iff_of_true (Nat.zero_le _) fun h => absurd h hinit

theorem parcel_fits_modeWithTransform : ∃ d, createInstance (twoLuts shortText) 0 = some d ∧
      (getDqeLut (modeWithTransform.foldl step (d, .fresh)).1).1.reach ≤
        getDqeLutSize (modeWithTransform.foldl step (d, .fresh)).1 := by
  have hcreated : createInstance (twoLuts shortText) 0 = some _ := rfl
  refine ⟨_, hcreated, (parcel_fits_iff hcreated modeWithTransform).mpr fun _ matrix hmat => ?_⟩
  obtain rfl := Option.some.inj hmat
  decide

theorem negative_transform_overruns :
    ¬∀ (sys : System) (displayId : Nat) (d : Impl), createInstance sys displayId = some d → ∀ calls : List Call,
      (getDqeLut (calls.foldl step (d, .fresh)).1).1.reach ≤ getDqeLutSize (calls.foldl step (d, .fresh)).1 := by
  intro h
  have hreach := h (twoLuts shortText) 0 _ rfl [.setColorMode 0, .setColorTransform fun _ => -65536]
  revert hreach
  set_option maxRecDepth 20000 in decide

end ExynosHal.DisplayColor
