import ExynosHal.CpBoot.Modap

/-! # The pieces of an image

What `load_cp_image_by_stage` loads of a file while the device takes every piece.
-/

namespace ExynosHal.CpBoot.Modap

def Env.withFile (env : Env) (file : List Byte) (dlc : DloadControl) : Env := { env with
    read := fun _ k => (min (roundLen dlc k) (file.length - (dlc.bOffset.toNat + k * payloadLen)) : Nat)
    loadCpImage := fun _ _ => 0 }

def Chunk.data (file : List Byte) (c : Chunk) : List Byte := (file.drop c.fileOffset).take c.len

def Contiguous : U32 → List Chunk → Prop
  | _, [] => True
  | mOffset, c :: rest => c.mOffset = mOffset ∧ Contiguous (mOffset + BitVec.ofNat 32 c.len) rest

structure LoadsExactly (file : List Byte) (dlc : DloadControl) (result : List Chunk × Int) : Prop where
  ret : result.2 = 0
  nonempty : ∀ c ∈ result.1, c.data file ≠ []
  short : ∀ c ∈ result.1, (c.data file).length ≤ payloadLen
  contiguous : Contiguous dlc.mOffset result.1
  covers : (result.1.map (Chunk.data file)).flatten = (file.drop dlc.bOffset.toNat).take dlc.bSize.toNat

section
variable {env : Env} {file : List Byte} {stage : Nat} {dlc : DloadControl}

theorem length_data {c : Chunk} (h : c.fileOffset + c.len ≤ file.length) : (c.data file).length = c.len := by
  rw [Chunk.data, List.length_take, List.length_drop]
  omega

theorem take_append_take (file : List Byte) (i m n : Nat) :
    (file.drop i).take m ++ (file.drop (i + m)).take n = (file.drop i).take (m + n) := by
  rw [List.take_add, List.drop_drop]

theorem read_withFile (hlong : dlc.bOffset.toNat + dlc.bSize.toNat ≤ file.length) {k : Nat}
    (hk : k * payloadLen ≤ dlc.bSize.toNat) : (env.withFile file dlc).read stage k = roundLen dlc k := by
  have hle : roundLen dlc k ≤ file.length - (dlc.bOffset.toNat + k * payloadLen) := by
    unfold roundLen lastRound
    split
    · omega
    · rename_i hmore
      have hrest := of_decide_eq_false (Bool.eq_false_iff.mpr hmore)
      omega
  exact congrArg Int.ofNat (Nat.min_eq_left hle)

theorem loadChunks_withFile (hlong : dlc.bOffset.toNat + dlc.bSize.toNat ≤ file.length) {fuel k : Nat}
    (mOffset : U32) (hk : k * payloadLen ≤ dlc.bSize.toNat) (hfuel : dlc.bSize.toNat < (k + fuel) * payloadLen) :
    ∃ chunks, loadChunks (env.withFile file dlc) stage dlc fuel k mOffset = (chunks, 0) ∧
      Contiguous mOffset chunks ∧ (∀ c ∈ chunks, (c.data file).length ≤ payloadLen) ∧
      (chunks.map (Chunk.data file)).flatten =
        (file.drop (dlc.bOffset.toNat + k * payloadLen)).take (dlc.bSize.toNat - k * payloadLen) ∧
      ((∀ c ∈ chunks, c.data file ≠ []) ↔ ¬payloadLen ∣ dlc.bSize.toNat) := by
  induction fuel generalizing k mOffset with
  | zero =>
    rw [Nat.add_zero] at hfuel
    omega
  | succ fuel ih =>
    have hread : (env.withFile file dlc).read stage k = roundLen dlc k := read_withFile hlong hk
    have hnext : (k + 1) * payloadLen = k * payloadLen + payloadLen := Nat.succ_mul _ _
    let chunk : Chunk := ⟨stage, dlc.bFd, dlc.bOffset.toNat + k * payloadLen, mOffset, roundLen dlc k⟩
    rw [loadChunks]
    dsimp only
    have hload : (env.withFile file dlc).loadCpImage stage k = 0 := rfl
    rw [hread, hload, if_neg (by omega), if_neg (not_not.mpr rfl), if_neg (not_not.mpr rfl)]
    split
    · rename_i hlast
      have hlen : roundLen dlc k = dlc.bSize.toNat - k * payloadLen := if_pos hlast
      have hlt : dlc.bSize.toNat - k * payloadLen < payloadLen := of_decide_eq_true hlast
      have hdata : (chunk.data file).length = dlc.bSize.toNat - k * payloadLen :=
        (length_data (by dsimp only [chunk]; omega)).trans hlen
      refine ⟨[chunk], rfl, ⟨rfl, trivial⟩, ?_, ?_, ?_⟩
      · intro c hc
        rw [List.mem_singleton.mp hc, hdata]
        exact hlt.le
      · rw [List.map_singleton, List.flatten_singleton, Chunk.data]
        dsimp only [chunk]
        rw [hlen]
      · rw [List.forall_mem_singleton, ne_eq, ← List.length_eq_zero_iff, hdata]
        unfold payloadLen at *
        omega
    · rename_i hlast
      have hlen : roundLen dlc k = payloadLen := if_neg hlast
      have hle : payloadLen ≤ dlc.bSize.toNat - k * payloadLen := by
        have hrest := of_decide_eq_false (Bool.eq_false_iff.mpr hlast)
        omega
      have hdata : (chunk.data file).length = payloadLen := (length_data (by dsimp only [chunk]; omega)).trans hlen
      obtain ⟨chunks, hchunks, hcontiguous, hshort, hcovers, hnonempty⟩ :=
        ih (mOffset + BitVec.ofNat 32 (roundLen dlc k)) (k := k + 1) (by omega)
          (by rwa [Nat.add_right_comm])
      refine ⟨chunk :: chunks, by rw [hchunks], ⟨rfl, hcontiguous⟩, ?_, ?_, ?_⟩
      · intro c hc
        rcases List.mem_cons.mp hc with rfl | hc
        · exact hdata.le
        · exact hshort c hc
      · rw [List.map_cons, List.flatten_cons, hcovers, hnext, Chunk.data]
        dsimp only [chunk]
        have hrest : payloadLen + (dlc.bSize.toNat - (k * payloadLen + payloadLen)) =
            dlc.bSize.toNat - k * payloadLen := by omega
        rw [hlen, ← Nat.add_assoc, take_append_take, hrest]
      · rw [List.forall_mem_cons, hnonempty, and_iff_right]
        rw [ne_eq, ← List.length_eq_zero_iff, hdata]
        decide

/-- An image is loaded exactly just when there is memory, the file can be positioned and its offset fits an `int`, the
size is not the offset, and the last piece is not empty. -/
theorem loadCpImageByStage_exact_iff (env : Env) (file : List Byte) (stage : Nat) (dlc : DloadControl)
    (hsize : dlc.bSize ≠ 0) (hlong : dlc.bOffset.toNat + dlc.bSize.toNat ≤ file.length) :
    LoadsExactly file dlc (loadCpImageByStage (env.withFile file dlc) stage dlc) ↔
      (env.malloc stage ∧ env.lseek stage) ∧ 0 ≤ dlc.bOffset.toInt ∧ dlc.bSize ≠ dlc.bOffset ∧
        ¬payloadLen ∣ dlc.bSize.toNat := by
  have hsought : sought (env.withFile file dlc) stage dlc = if env.lseek stage then dlc.bOffset.toInt else -1 := rfl
  unfold loadCpImageByStage
  split
  · rename_i hmalloc
    refine iff_of_false (fun h => absurd h.ret (by decide)) ?_
    rintro ⟨⟨hok, -⟩, -⟩
    exact hmalloc hok
  rename_i hmalloc
  split
  · rename_i hneg
    refine iff_of_false (fun h => absurd h.ret hneg.ne) ?_
    rintro ⟨⟨-, hlseek⟩, hoff, -⟩
    rw [hsought, if_pos hlseek] at hneg
    omega
  rename_i hoff
  have hlseek : env.lseek stage := by
    by_contra hlseek
    rw [hsought, if_neg hlseek] at hoff
    exact hoff (by decide)
  rw [hsought, if_pos hlseek] at hoff ⊢
  split
  · rename_i hsame
    refine iff_of_false (fun h => ?_) fun h => h.2.2.1 hsame
    have hzero : dlc.bOffset = 0 := BitVec.eq_of_toInt_eq h.ret
    exact hsize (hsame.trans hzero)
  · rename_i hdiffer
    have hfuel : dlc.bSize.toNat < (0 + (dlc.bSize.toNat / payloadLen + 1)) * payloadLen := by
      rw [Nat.zero_add]
      rw [Nat.mul_comm]
      exact Nat.lt_mul_div_succ _ (by decide)
    obtain ⟨chunks, hchunks, hcontiguous, hshort, hcovers, hnonempty⟩ :=
      @loadChunks_withFile env file stage dlc hlong _ _ dlc.mOffset (by simp) hfuel
    rw [Nat.zero_mul, Nat.add_zero, Nat.sub_zero] at hcovers
    rw [hchunks]
    constructor
    · intro h
      exact ⟨⟨not_not.mp hmalloc, hlseek⟩, not_lt.mp hoff, hdiffer, hnonempty.mp h.nonempty⟩
    · rintro ⟨-, -, -, hdvd⟩
      exact ⟨rfl, hnonempty.mpr hdvd, hshort, hcontiguous, hcovers⟩

end

theorem threeChunks_load_exactly : let file : List Byte := List.replicate 200000 7
    let dlc : DloadControl := { bOffset := 4096, bSize := 150000 }
    LoadsExactly file dlc (loadCpImageByStage (({ read := fun _ _ => 0 } : Env).withFile file dlc) 0 dlc) :=
  (loadCpImageByStage_exact_iff _ _ 0 _ (by decide)
    (by rw [List.length_replicate]; decide)).mpr ⟨⟨rfl, rfl⟩, by decide, by decide, by decide⟩

theorem size_at_offset_not_loaded : ¬LoadsExactly [1, 2] { bOffset := 1, bSize := 1 } (loadCpImageByStage
      (({ read := fun _ _ => 0 } : Env).withFile [1, 2] { bOffset := 1, bSize := 1 }) 0
        { bOffset := 1, bSize := 1 }) := by
  intro h
  exact absurd h.ret (by decide)

end ExynosHal.CpBoot.Modap
