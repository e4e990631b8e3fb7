import ExynosHal.Library.Run
import ExynosHal.Sbwc.Helper

/-! # Pairs of SBWC and YUV buffers

The two maps are inverse to each other, and the count of a pair is the number of its users, over any order of
calls.
-/

namespace ExynosHal.Sbwc.Pairing
open Library Library.Run Helper
open Function (update)
open AList (notMem_empty lookup_insert lookup_insert_ne mem_insert lookup_erase lookup_erase_ne mem_erase)

variable {Buffer : Type} [DecidableEq Buffer] {Handle : Type}

def outstanding (yuv : Buffer) : List (Outcome Buffer) → Int
  | [] => 0
  | .registered y :: log => if y = yuv then 1 else outstanding yuv log
  | .shared y :: log => if y = yuv then outstanding yuv log + 1 else outstanding yuv log
  | .freed y :: log => if y = yuv then outstanding yuv log - 1 else outstanding yuv log
  | .deleted y :: log => if y = yuv then outstanding yuv log - 1 else outstanding yuv log
  | .failed :: log => outstanding yuv log
  | .decompressed :: log => outstanding yuv log

def usersOf (h : HelperState Buffer Handle) (log : List (Outcome Buffer)) (sbwc : Buffer) : Int :=
  match h.sbwcToYuv.lookup sbwc with
  | none => 0
  | some yuv => outstanding yuv log

structure Paired (h : HelperState Buffer Handle) (log : List (Outcome Buffer)) : Prop where
  inverse : ∀ sbwc yuv, h.sbwcToYuv.lookup sbwc = some yuv ↔ h.yuvToSbwc.lookup yuv = some sbwc
  ref_eq : ∀ yuv ∈ h.yuvToSbwc, h.ref.lookup yuv = some (outstanding yuv log)
  ref_pos : ∀ yuv ∈ h.yuvToSbwc, 1 ≤ outstanding yuv log
  held_eq : ∀ b, h.held b = (if b ∈ h.yuvToSbwc then 1 else 0) + usersOf h log b
  free_unregistered : ∀ yuv, yuv ∉ h.yuvToSbwc → freeYuvAHB (some (some yuv)) h = (false, some (some yuv), h) ∧
      freeYuvAHBDeprecated (some yuv) h = (false, h)

structure Invariant (h : HelperState Buffer Handle) (log : List (Outcome Buffer)) : Prop where
  inverse : ∀ sbwc yuv, h.sbwcToYuv.lookup sbwc = some yuv ↔ h.yuvToSbwc.lookup yuv = some sbwc
  ref_eq : ∀ yuv ∈ h.yuvToSbwc, h.ref.lookup yuv = some (outstanding yuv log)
  ref_pos : ∀ yuv ∈ h.yuvToSbwc, 1 ≤ outstanding yuv log
  ref_lt : ∀ yuv ∈ h.yuvToSbwc, outstanding yuv log < 2147483648
  held_eq : ∀ b, h.held b = (if b ∈ h.yuvToSbwc then 1 else 0) + usersOf h log b
  stale : ∀ yuv, yuv ∉ h.yuvToSbwc → ∀ n, h.ref.lookup yuv = some n → n = 1

variable {yuv : Buffer} {h : HelperState Buffer Handle}

theorem freeYuv_of_notMem (hyuv : yuv ∉ h.yuvToSbwc) : freeYuv (some yuv) h = (.failed, h) := by
  rw [freeYuv, AList.lookup_eq_none.mpr hyuv]

variable {log : List (Outcome Buffer)}

theorem Invariant.paired (hinv : Invariant h log) : Paired h log where
  inverse := hinv.inverse
  ref_eq := hinv.ref_eq
  ref_pos := hinv.ref_pos
  held_eq := hinv.held_eq
  free_unregistered yuv hyuv := by
    have hfree : freeYuv (some yuv) h = (.failed, h) := freeYuv_of_notMem hyuv
    constructor
    · rw [freeYuvAHB, Option.join_some, hfree]
      rfl
    · rw [freeYuvAHBDeprecated, hfree]
      rfl

theorem invariant_empty : Invariant (HelperState.empty : HelperState Buffer Handle) [] where
  inverse sbwc yuv := by simp [HelperState.empty]
  ref_eq yuv hyuv := absurd hyuv (notMem_empty yuv)
  ref_pos yuv hyuv := absurd hyuv (notMem_empty yuv)
  ref_lt yuv hyuv := absurd hyuv (notMem_empty yuv)
  held_eq b := by simp [HelperState.empty, usersOf]
  stale yuv _ n hn := by simp [HelperState.empty] at hn

variable {β : Type} {map : AList fun _ : Buffer => β} {value : β} {key : Buffer}

theorem mem_of_lookup (h : map.lookup key = some value) : key ∈ map := AList.lookup_isSome.mp (by rw [h]; rfl)

variable {sbwc yuv : Buffer}

theorem Invariant.mem_yuv (hinv : Invariant h log)
    (hpair : h.sbwcToYuv.lookup sbwc = some yuv) : yuv ∈ h.yuvToSbwc :=
  mem_of_lookup ((hinv.inverse sbwc yuv).mp hpair)

theorem Invariant.sbwc_unique
    (hinv : Invariant h log) {sbwc sbwc' yuv : Buffer} (hpair : h.sbwcToYuv.lookup sbwc = some yuv)
    (hpair' : h.sbwcToYuv.lookup sbwc' = some yuv) : sbwc' = sbwc := by
  have hleft := (hinv.inverse sbwc yuv).mp hpair
  have hright := (hinv.inverse sbwc' yuv).mp hpair'
  exact Option.some.inj (hright.symm.trans hleft)

variable {log log' : List (Outcome Buffer)}

theorem Invariant.congrLog (hinv : Invariant h log) (hlog : ∀ yuv, outstanding yuv log' = outstanding yuv log) :
    Invariant h log' where
  inverse := hinv.inverse
  ref_eq yuv hyuv := by rw [hlog]; exact hinv.ref_eq yuv hyuv
  ref_pos yuv hyuv := by rw [hlog]; exact hinv.ref_pos yuv hyuv
  ref_lt yuv hyuv := by rw [hlog]; exact hinv.ref_lt yuv hyuv
  held_eq b := by simpa only [usersOf, hlog] using hinv.held_eq b
  stale := hinv.stale

theorem Invariant.addRef (hinv : Invariant h log) (hpair : h.sbwcToYuv.lookup sbwc = some yuv)
    {change : Int} (hlog : ∀ y, outstanding y log' = if yuv = y then outstanding y log + change
      else outstanding y log)
    (hpos : 1 ≤ outstanding yuv log + change) (hlt : outstanding yuv log + change < 2147483648) :
    Invariant { (h.addRef yuv change) with
      held := update h.held sbwc (h.held sbwc + change) } log' := by
  have hmem := hinv.mem_yuv hpair
  have hfits : IntType.i32.convert (outstanding yuv log + change) = outstanding yuv log + change :=
    IntType.convert_of_inRange (by simp; omega)
  have hadd : h.addRef yuv change = { h with ref := h.ref.insert yuv (outstanding yuv log + change) } := by
    rw [HelperState.addRef, hinv.ref_eq yuv hmem]
    simp only [hfits]
  rw [hadd]
  constructor
  · exact hinv.inverse
  · intro y hy
    dsimp only
    rw [hlog]
    by_cases hyuv : yuv = y
    · rw [if_pos hyuv, ← hyuv, lookup_insert]
    · rw [if_neg hyuv, lookup_insert_ne (Ne.symm hyuv)]
      exact hinv.ref_eq y hy
  · intro y hy
    rw [hlog]
    by_cases hyuv : yuv = y
    · rw [if_pos hyuv, ← hyuv]
      exact hpos
    · rw [if_neg hyuv]
      exact hinv.ref_pos y hy
  · intro y hy
    rw [hlog]
    by_cases hyuv : yuv = y
    · rw [if_pos hyuv, ← hyuv]
      exact hlt
    · rw [if_neg hyuv]
      exact hinv.ref_lt y hy
  · intro b
    have hheld := hinv.held_eq b
    simp only [usersOf] at hheld ⊢
    by_cases hb : b = sbwc
    · subst hb
      rw [hpair] at hheld ⊢
      simp only [Function.update_self, hlog, if_true] at hheld ⊢
      omega
    · rw [Function.update_of_ne hb, hheld]
      cases hlookup : h.sbwcToYuv.lookup b with
      | none => rfl
      | some y =>
        have hyuv : yuv ≠ y := by
          rintro rfl
          exact hb (hinv.sbwc_unique hpair hlookup)
        simp only [hlog, if_neg hyuv]
  · intro y hy n hn
    have hyuv : y ≠ yuv := by
      rintro rfl
      exact hy hmem
    rw [lookup_insert_ne hyuv] at hn
    exact hinv.stale y hy n hn

theorem lookup_insertNew_ne {key k : Buffer} (hne : k ≠ key) : (insertNew map key value).lookup k = map.lookup k := by
  rw [insertNew]
  split
  · rfl
  · exact lookup_insert_ne hne

theorem insertNew_of_notMem (hkey : key ∉ map) : insertNew map key value = map.insert key value := if_neg hkey

theorem Invariant.lookup_insertNew_ref (hinv : Invariant h log) (hyuv : yuv ∉ h.yuvToSbwc) :
    (insertNew h.ref yuv 1).lookup yuv = some 1 := by
  rw [insertNew]
  split
  · rename_i hmem
    obtain ⟨n, hn⟩ := Option.isSome_iff_exists.mp (AList.lookup_isSome.mpr hmem)
    rw [hn, hinv.stale yuv hyuv n hn]
  · exact lookup_insert _

theorem Invariant.register (hinv : Invariant h log) (hsbwc : h.sbwcToYuv.lookup sbwc = none)
    (hyuv : yuv ∉ h.yuvToSbwc) :
    Invariant { h with
      yuvToSbwc := h.yuvToSbwc.insert yuv sbwc
      sbwcToYuv := h.sbwcToYuv.insert sbwc yuv
      ref := insertNew h.ref yuv 1
      held := fun b => h.held b + (if b = yuv then 1 else 0) + if b = sbwc then 1 else 0 }
      (.registered yuv :: log) := by
  have hnone : h.yuvToSbwc.lookup yuv = none := AList.lookup_eq_none.mpr hyuv
  constructor
  · intro s y
    by_cases hs : s = sbwc
    · subst hs
      rw [lookup_insert]
      by_cases hy : y = yuv
      · subst hy
        rw [lookup_insert]
        exact iff_of_true rfl rfl
      · rw [lookup_insert_ne hy]
        refine iff_of_false (fun heq => hy (Option.some.inj heq).symm) ?_
        intro hlookup
        rw [(hinv.inverse s y).mpr hlookup] at hsbwc
        exact absurd hsbwc (by simp)
    · rw [lookup_insert_ne hs]
      by_cases hy : y = yuv
      · subst hy
        rw [lookup_insert]
        refine iff_of_false ?_ (fun heq => hs (Option.some.inj heq).symm)
        intro hlookup
        rw [(hinv.inverse s y).mp hlookup] at hnone
        exact absurd hnone (by simp)
      · rw [lookup_insert_ne hy]
        exact hinv.inverse s y
  · intro y hy
    by_cases heq : yuv = y
    · subst heq
      simpa [outstanding] using hinv.lookup_insertNew_ref hyuv
    · have hy' := ((mem_insert _).mp hy).resolve_left (Ne.symm heq)
      simpa [outstanding, heq, lookup_insertNew_ne (Ne.symm heq)] using hinv.ref_eq y hy'
  · intro y hy
    by_cases heq : yuv = y
    · simp [outstanding, heq]
    · have hy' := ((mem_insert _).mp hy).resolve_left (Ne.symm heq)
      simpa [outstanding, heq] using hinv.ref_pos y hy'
  · intro y hy
    by_cases heq : yuv = y
    · simp [outstanding, heq]
    · have hy' := ((mem_insert _).mp hy).resolve_left (Ne.symm heq)
      simpa [outstanding, heq] using hinv.ref_lt y hy'
  · intro b
    have hheld := hinv.held_eq b
    have husers : usersOf { h with
        yuvToSbwc := h.yuvToSbwc.insert yuv sbwc
        sbwcToYuv := h.sbwcToYuv.insert sbwc yuv
        ref := insertNew h.ref yuv 1
        held := fun b => h.held b + (if b = yuv then 1 else 0) + if b = sbwc then 1 else 0 }
        (.registered yuv :: log) b = usersOf h log b + if b = sbwc then 1 else 0 := by
      by_cases hb : b = sbwc
      · subst hb
        simp [usersOf, hsbwc, outstanding]
      · simp only [usersOf, lookup_insert_ne hb, if_neg hb, add_zero]
        cases hlookup : h.sbwcToYuv.lookup b with
        | none => rfl
        | some y =>
          have hne : yuv ≠ y := by
            rintro rfl
            exact hyuv (hinv.mem_yuv hlookup)
          simp [outstanding, hne]
    rw [husers]
    dsimp only
    rw [hheld]
    by_cases hb : b = yuv
    · subst hb
      simp only [mem_insert, true_or, if_true, if_neg hyuv]
      omega
    · simp only [mem_insert, hb, false_or, if_false]
      omega
  · intro y hy n hn
    have hne : y ≠ yuv := fun heq => hy ((mem_insert _).mpr (.inl heq))
    rw [lookup_insertNew_ne hne] at hn
    exact hinv.stale y (fun hmem => hy ((mem_insert _).mpr (.inr hmem))) n hn

theorem Invariant.delete (hinv : Invariant h log) (hpair : h.sbwcToYuv.lookup sbwc = some yuv)
    (hone : outstanding yuv log = 1) (lastSrc lastDst : Option Handle) :
    Invariant { h with
      yuvToSbwc := h.yuvToSbwc.erase yuv
      sbwcToYuv := h.sbwcToYuv.erase sbwc
      lastSrc := lastSrc
      lastDst := lastDst
      held := fun b => h.held b - (if b = yuv then 1 else 0) - if b = sbwc then 1 else 0 }
      (.deleted yuv :: log) := by
  have hmem := hinv.mem_yuv hpair
  have hback := (hinv.inverse sbwc yuv).mp hpair
  have hlog : ∀ y, y ≠ yuv → outstanding y (.deleted yuv :: log) = outstanding y log := by
    intro y hy
    simp [outstanding, Ne.symm hy]
  constructor
  · intro s y
    by_cases hs : s = sbwc
    · subst hs
      rw [lookup_erase]
      refine iff_of_false (by simp) ?_
      intro hlookup
      by_cases hy : y = yuv
      · subst hy
        rw [lookup_erase] at hlookup
        cases hlookup
      · rw [lookup_erase_ne hy] at hlookup
        have hpair' := (hinv.inverse s y).mpr hlookup
        exact hy (Option.some.inj (hpair'.symm.trans hpair))
    · rw [lookup_erase_ne hs]
      by_cases hy : y = yuv
      · subst hy
        rw [lookup_erase]
        refine iff_of_false ?_ (by simp)
        intro hlookup
        exact hs (hinv.sbwc_unique hpair hlookup)
      · rw [lookup_erase_ne hy]
        exact hinv.inverse s y
  · intro y hy
    obtain ⟨hne, hy'⟩ := AList.mem_erase.mp hy
    rw [hlog y hne]
    exact hinv.ref_eq y hy'
  · intro y hy
    obtain ⟨hne, hy'⟩ := AList.mem_erase.mp hy
    rw [hlog y hne]
    exact hinv.ref_pos y hy'
  · intro y hy
    obtain ⟨hne, hy'⟩ := AList.mem_erase.mp hy
    rw [hlog y hne]
    exact hinv.ref_lt y hy'
  · intro b
    have hheld := hinv.held_eq b
    have husers : usersOf { h with
        yuvToSbwc := h.yuvToSbwc.erase yuv
        sbwcToYuv := h.sbwcToYuv.erase sbwc
        lastSrc := lastSrc
        lastDst := lastDst
        held := fun b => h.held b - (if b = yuv then 1 else 0) - if b = sbwc then 1 else 0 }
        (.deleted yuv :: log) b = usersOf h log b - if b = sbwc then 1 else 0 := by
      by_cases hb : b = sbwc
      · subst hb
        simp [usersOf, hpair, hone]
      · simp only [usersOf, lookup_erase_ne hb, if_neg hb, sub_zero]
        cases hlookup : h.sbwcToYuv.lookup b with
        | none => rfl
        | some y =>
          have hne : y ≠ yuv := by
            rintro rfl
            exact hb (hinv.sbwc_unique hpair hlookup)
          exact hlog y hne
    rw [husers]
    dsimp only
    rw [hheld]
    by_cases hb : b = yuv
    · subst hb
      simp only [mem_erase, ne_eq, not_true_eq_false, false_and, if_false, if_true, if_pos hmem]
      omega
    · simp only [mem_erase, ne_eq, hb, not_false_eq_true, true_and, if_false]
      omega
  · intro y hy n hn
    by_cases heq : y = yuv
    · subst heq
      rw [hinv.ref_eq y hmem, hone] at hn
      exact (Option.some.inj hn).symm
    · exact hinv.stale y (fun hmem' => hy (AList.mem_erase.mpr ⟨heq, hmem'⟩)) n hn

theorem addRef_held (h : HelperState Buffer Handle) (yuv : Buffer) (change : Int) :
    (h.addRef yuv change).held = h.held := by
  rw [HelperState.addRef]
  split <;> rfl

theorem update_add_update (held : Buffer → Int) (yuv sbwc : Buffer) :
    update (update held yuv (held yuv + 1)) sbwc (update held yuv (held yuv + 1) sbwc + 1) =
      fun b => held b + (if b = yuv then 1 else 0) + if b = sbwc then 1 else 0 := by
  funext b
  simp only [Function.update_apply]
  by_cases hsbwc : b = sbwc <;> (by_cases hyuv : b = yuv <;> simp_all)

theorem update_sub_update (held : Buffer → Int) (yuv sbwc : Buffer) :
    update (update held yuv (held yuv - 1)) sbwc (update held yuv (held yuv - 1) sbwc - 1) =
      fun b => held b - (if b = yuv then 1 else 0) - if b = sbwc then 1 else 0 := by
  funext b
  simp only [Function.update_apply]
  by_cases hsbwc : b = sbwc <;> (by_cases hyuv : b = yuv <;> simp_all)

section
variable [DecidableEq Handle]

inductive Call (Buffer : Type) where
  | newYuvAHB (sbwc : Option Buffer) (isSbwc : Bool) (alloc : Option Buffer)
  | newYuvAHBDeprecated (sbwc : Option Buffer) (isSbwc : Bool) (alloc : Option Buffer)
  | freeYuvAHB (yuv : Option (Option Buffer))
  | freeYuvAHBDeprecated (yuv : Option Buffer)
  | decompress (service decodeOk : Bool) (sbwc : Option Buffer)

def Call.run (handle : Buffer → Option Handle) (h : HelperState Buffer Handle) :
    Call Buffer → Outcome Buffer × HelperState Buffer Handle
  | .newYuvAHB sbwc isSbwc alloc =>
    ((newYuv sbwc isSbwc alloc h).1, (Helper.newYuvAHB sbwc isSbwc alloc none h).2.2)
  | .newYuvAHBDeprecated sbwc isSbwc alloc =>
    ((newYuv sbwc isSbwc alloc h).1, (Helper.newYuvAHBDeprecated sbwc isSbwc alloc h).2)
  | .freeYuvAHB yuv => ((freeYuv yuv.join h).1, (Helper.freeYuvAHB yuv h).2.2)
  | .freeYuvAHBDeprecated yuv => ((freeYuv yuv h).1, (Helper.freeYuvAHBDeprecated yuv h).2)
  | .decompress service decodeOk sbwc =>
    (.decompressed, (Helper.decompress handle service decodeOk sbwc h).2)

def step (handle : Buffer → Option Handle) (s : HelperState Buffer Handle × List (Outcome Buffer))
    (call : Call Buffer) : HelperState Buffer Handle × List (Outcome Buffer) :=
  match call.run handle s.1 with
  | (outcome, h) => (h, outcome :: s.2)

def AllocatorOk (s : HelperState Buffer Handle × List (Outcome Buffer)) : Call Buffer → Prop
  | .newYuvAHB _ _ alloc | .newYuvAHBDeprecated _ _ alloc => ∀ yuv ∈ alloc, yuv ∉ s.1.yuvToSbwc
  | _ => True

def CountFits (s : HelperState Buffer Handle × List (Outcome Buffer)) : Call Buffer → Prop
  | .newYuvAHB sbwc _ _ | .newYuvAHBDeprecated sbwc _ _ =>
    ∀ b ∈ sbwc, usersOf s.1 s.2 b < 2147483647
  | _ => True

variable {h : HelperState Buffer Handle} {log : List (Outcome Buffer)}

omit [DecidableEq Handle] in
theorem Invariant.newYuv (hinv : Invariant h log)
    {sbwc : Option Buffer} (isSbwc : Bool) {alloc : Option Buffer} (halloc : ∀ yuv ∈ alloc, yuv ∉ h.yuvToSbwc)
    (hfits : ∀ b ∈ sbwc, usersOf h log b < 2147483647) :
    Invariant (Helper.newYuv sbwc isSbwc alloc h).2 ((Helper.newYuv sbwc isSbwc alloc h).1 :: log) := by
  have hfailed : Invariant h (.failed :: log) := hinv.congrLog fun _ => rfl
  cases sbwc with
  | none => exact hfailed
  | some sbwc =>
    cases isSbwc with
    | false => exact hfailed
    | true =>
      have hroom := hfits sbwc rfl
      simp only [Helper.newYuv, Bool.not_true, Bool.false_eq_true, if_false]
      cases hlookup : h.sbwcToYuv.lookup sbwc with
      | some yuv =>
        have hpos := hinv.ref_pos yuv (hinv.mem_yuv hlookup)
        simp only [usersOf, hlookup] at hroom
        have hshared : Invariant { (h.addRef yuv 1) with
            held := update h.held sbwc (h.held sbwc + 1) } (.shared yuv :: log) :=
          hinv.addRef hlookup (fun _ => rfl) (by omega) (by omega)
        simpa only [HelperState.acquire, addRef_held] using hshared
      | none =>
        cases alloc with
        | none => exact hfailed
        | some yuv =>
          have hyuv := halloc yuv rfl
          have hregd := hinv.register hlookup hyuv
          have hsbwc : sbwc ∉ h.sbwcToYuv := AList.lookup_eq_none.mp hlookup
          simpa only [HelperState.acquire, insertNew_of_notMem hyuv, insertNew_of_notMem hsbwc,
            update_add_update] using hregd

omit [DecidableEq Handle] in
theorem Invariant.freeYuv (hinv : Invariant h log) (yuv : Option Buffer) :
    Invariant (Helper.freeYuv yuv h).2 ((Helper.freeYuv yuv h).1 :: log) := by
  have hfailed : Invariant h (.failed :: log) := hinv.congrLog fun _ => rfl
  cases yuv with
  | none => exact hfailed
  | some yuv =>
    by_cases hmem : yuv ∈ h.yuvToSbwc
    · obtain ⟨sbwc, hback⟩ := Option.isSome_iff_exists.mp (AList.lookup_isSome.mpr hmem)
      have hpair := (hinv.inverse sbwc yuv).mpr hback
      have href := hinv.ref_eq yuv hmem
      have hpos := hinv.ref_pos yuv hmem
      have hlt := hinv.ref_lt yuv hmem
      simp only [Helper.freeYuv, hback, href]
      rw [if_neg (by omega)]
      split
      · have hfreed : Invariant { (h.addRef yuv (-1)) with
            held := update h.held sbwc (h.held sbwc + -1) } (.freed yuv :: log) :=
          hinv.addRef hpair (fun _ => rfl) (by omega) (by omega)
        simpa only [HelperState.release, addRef_held, ← sub_eq_add_neg] using hfreed
      · have hone : outstanding yuv log = 1 := by omega
        split
        · simpa only [HelperState.release, update_sub_update] using hinv.delete hpair hone none none
        · simpa only [HelperState.release, update_sub_update] using hinv.delete hpair hone h.lastSrc h.lastDst
    · rw [freeYuv_of_notMem hmem]
      exact hfailed

theorem Invariant.decompress
    (hinv : Invariant h log) (handle : Buffer → Option Handle) (service decodeOk : Bool) (sbwc : Option Buffer) :
    Invariant (Helper.decompress handle service decodeOk sbwc h).2 (.decompressed :: log) := by
  have hsame : Invariant h (.decompressed :: log) := hinv.congrLog fun _ => rfl
  have hcache : ∀ lastSrc lastDst : Option Handle, Invariant { h with lastSrc := lastSrc, lastDst := lastDst }
      (.decompressed :: log) := by
    intro lastSrc lastDst
    exact ⟨hsame.inverse, hsame.ref_eq, hsame.ref_pos, hsame.ref_lt, hsame.held_eq, hsame.stale⟩
  rw [Helper.decompress.eq_def]
  split
  · exact hsame
  · split
    · exact hsame
    · rw [requestDecompress]
      split
      · exact hsame
      · split
        · exact hsame
        · split
          · exact hcache none none
          · exact hcache _ _

omit [DecidableEq Handle] in
theorem freeYuvAHB_state (yuv : Option (Option Buffer)) (h : HelperState Buffer Handle) :
    (Helper.freeYuvAHB yuv h).2.2 = (Helper.freeYuv yuv.join h).2 := by
  rw [Helper.freeYuvAHB]
  split <;> simp_all

theorem invariant_step (handle : Buffer → Option Handle) (s : HelperState Buffer Handle × List (Outcome Buffer))
    (call : Call Buffer) (hinv : Invariant s.1 s.2) (hcall : AllocatorOk s call ∧ CountFits s call) :
    Invariant (step handle s call).1 (step handle s call).2 := by
  obtain ⟨halloc, hfits⟩ := hcall
  cases call with
  | newYuvAHB sbwc isSbwc alloc => exact hinv.newYuv isSbwc halloc hfits
  | newYuvAHBDeprecated sbwc isSbwc alloc => exact hinv.newYuv isSbwc halloc hfits
  | freeYuvAHB yuv =>
    simp only [step, Call.run, freeYuvAHB_state]
    exact hinv.freeYuv yuv.join
  | freeYuvAHBDeprecated yuv => exact hinv.freeYuv yuv
  | decompress service decodeOk sbwc => exact hinv.decompress handle service decodeOk sbwc

/-- While the allocator gives no registered buffer and every count fits an `int`, the maps agree with the users. -/
theorem paired_run (handle : Buffer → Option Handle) (calls : List (Call Buffer))
    (halloc : EachStep (step handle) AllocatorOk (HelperState.empty, []) calls)
    (hfits : EachStep (step handle) CountFits (HelperState.empty, []) calls) :
    Throughout (step handle) (fun s => Paired s.1 s.2) (HelperState.empty, []) calls := by
  have hinv : Throughout (step handle) (fun s => Invariant s.1 s.2) (HelperState.empty, []) calls :=
    throughout_of_eachStep (invariant_step handle) invariant_empty (halloc.and hfits)
  exact hinv.mono fun _ h => h.paired

end

def noHandle (_ : Bool) : Option Bool := none

def registerCall : Call Bool := .newYuvAHB (some false) true (some true)

def shareCall : Call Bool := .newYuvAHB (some false) true none

theorem paired_run_shared : EachStep (step noHandle) AllocatorOk (HelperState.empty, [])
        [registerCall, shareCall, .freeYuvAHB (some (some true))] ∧
      Throughout (step noHandle) (fun s => Paired s.1 s.2) (HelperState.empty, [])
        [registerCall, shareCall, .freeYuvAHB (some (some true))] := by
  have halloc : EachStep (step noHandle) AllocatorOk (HelperState.empty, [])
      [registerCall, shareCall, .freeYuvAHB (some (some true))] := by
    refine ⟨fun yuv _ => notMem_empty yuv, ?_, trivial, trivial⟩
    rintro yuv ⟨⟩
  refine ⟨halloc, paired_run noHandle _ halloc ⟨?_, ?_, trivial, trivial⟩⟩
  · rintro b ⟨⟩
    decide
  · rintro b ⟨⟩
    decide

structure Shared (s : HelperState Bool Bool × List (Outcome Bool)) (users : Int) : Prop where
  pair : s.1.sbwcToYuv.lookup false = some true
  registered : true ∈ s.1.yuvToSbwc
  outstanding_eq : outstanding true s.2 = users
  ref_lt : ∀ n, s.1.ref.lookup true = some n → n < 2147483648

theorem shared_register : Shared (step noHandle (HelperState.empty, []) registerCall) 1 where
  pair := by decide
  registered := by decide
  outstanding_eq := by decide
  ref_lt n hn := by
    have hone : some 1 = some n := hn
    cases hone
    decide

variable {s : HelperState Bool Bool × List (Outcome Bool)} {users : Int}

theorem shared_step (h : Shared s users) : Shared (step noHandle s shareCall) (users + 1) := by
  obtain ⟨helper, log⟩ := s
  have hpair : helper.sbwcToYuv.lookup false = some true := h.pair
  have hstep : step noHandle (helper, log) shareCall = ((helper.addRef true 1).acquire false, .shared true :: log) := by
    simp [step, shareCall, Call.run, Helper.newYuvAHB, Helper.newYuv, hpair]
  have hmaps : (helper.addRef true 1).sbwcToYuv = helper.sbwcToYuv ∧
      (helper.addRef true 1).yuvToSbwc = helper.yuvToSbwc := by
    rw [HelperState.addRef]
    split <;> exact ⟨rfl, rfl⟩
  rw [hstep]
  refine ⟨?_, ?_, ?_, ?_⟩
  · rw [HelperState.acquire, hmaps.1]
    exact hpair
  · rw [HelperState.acquire, hmaps.2]
    exact h.registered
  · rw [outstanding, if_pos rfl, h.outstanding_eq]
  · intro n hn
    rw [HelperState.acquire, HelperState.addRef] at hn
    cases href : helper.ref.lookup true with
    | none =>
      simp only [href] at hn
      cases hn
    | some count =>
      simp only [href, lookup_insert] at hn
      cases hn
      exact @Int.bmod_lt (count + 1) (2 ^ 32) (by norm_num)

theorem shared_steps (h : Shared s users) (n : Nat) :
    Shared ((List.replicate n shareCall).foldl (step noHandle) s) (users + n) := by
  induction n generalizing s users with
  | zero => simpa using h
  | succ n ih =>
    rw [List.replicate_succ, List.foldl_cons]
    have hnext := ih (shared_step h)
    rwa [add_assoc, add_comm (1 : Int), ← Nat.cast_succ] at hnext

theorem eachStep_shareCalls (s : HelperState Bool Bool × List (Outcome Bool)) (n : Nat) :
    EachStep (step noHandle) AllocatorOk s (List.replicate n shareCall) := by
  induction n generalizing s with
  | zero => trivial
  | succ n ih =>
    refine ⟨?_, ih _⟩
    rintro yuv ⟨⟩

theorem shared_too_often_not_paired : EachStep (step noHandle) AllocatorOk (HelperState.empty, [])
        (registerCall :: List.replicate 2147483647 shareCall) ∧
      ¬ Throughout (step noHandle) (fun s => Paired s.1 s.2) (HelperState.empty, [])
        (registerCall :: List.replicate 2147483647 shareCall) := by
  constructor
  · exact ⟨fun yuv _ => notMem_empty yuv, eachStep_shareCalls _ _⟩
  · intro hpaired
    have hlast := hpaired.last
    have hshared := shared_steps shared_register 2147483647
    rw [List.foldl_cons] at hlast
    have href := hlast.ref_eq true hshared.registered
    rw [hshared.outstanding_eq] at href
    exact absurd (hshared.ref_lt _ href) (by decide)

end ExynosHal.Sbwc.Pairing
