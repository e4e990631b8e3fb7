import ExynosHal.Gralloc.RetainRelease

/-!
# What a failed import leaves behind

An import that fails should leave the process with what it had, and so should an import that
succeeds once its buffer is freed. Which failures do is said case by case.
-/

namespace ExynosHal.Gralloc

def Held.released (t : Held) (hnd : PrivateHandle) : Held :=
  { t.unmapAll (hnd.planes.map (·.base)) with ionHandles := t.ionHandles - handlesOf hnd.ionFds }

section
variable {host : Host} {retained : PrivateHandle} {t : Held} {addr : Nat}

theorem ionFds_attrBase (retained : PrivateHandle) (base : Nat) :
    handlesOf { retained with attr := { retained.attr with base := base } }.ionFds =
      handlesOf retained.ionFds := by
  apply handlesOf_congr
  rw [PrivateHandle.ionFds, PrivateHandle.ionFds, List.map_append, List.map_append]
  rfl

theorem unmapAll_append_free (bases : List Nat) (h : t.mappings addr = none) :
    t.unmapAll (bases ++ [addr]) = t.unmapAll bases := by
  rw [← unmapAll_unmapAll, unmapAll_eq_iff]
  intro a ha
  rw [List.mem_singleton.mp ha, unmapAll_apply, h]
  exact .inr (.inr (ite_self none))

theorem unregister_registered (hvalid : retained.validate host) (hfree : t.Free addr) :
    (unregisterBuffer host { retained with attr := { retained.attr with base := addr } } (t.map addr .attribute)).2.2 =
      if retained.refCount = 1 ∧ retained.isLocal host = true then t.released retained
      else t.map addr .attribute := by
  rw [unregisterBuffer_eq host { retained with attr := { retained.attr with base := addr } } _ hvalid]
  refine if_congr Iff.rfl ?_ rfl
  rw [Held.dropped, ionFds_attrBase, map_eq_mapAll, unmapAll_mapAll]
  · dsimp only
    rw [unmapAll_append_free _ hfree.1]
    rfl
  · intro a ha
    rw [List.mem_singleton.mp ha]
    exact ⟨by simp, hfree.2⟩

theorem freeBuffer_registered (hvalid : retained.validate host) (hfree : t.Free addr)
    {pointer : Nat} (hptr : pointer ∉ t.registered) :
    (freeBuffer host pointer { retained with attr := { retained.attr with base := addr } }
        { t.map addr .attribute with registered := insert pointer t.registered }).2 =
      if retained.refCount = 1 ∧ retained.isLocal host = true then t.released retained else t := by
  have hunmapped : Held.munmap { t.map addr .attribute with
      registered := (insert pointer t.registered).erase pointer } addr = t := by
    rw [Finset.erase_insert hptr, Held.munmap, if_neg hfree.2.2]
    refine Held.ext ?_ rfl rfl
    exact (Function.update_idem _ _ _).trans (Function.update_eq_self_iff.mpr hfree.1.symm)
  have hmem : pointer ∈ insert pointer t.registered := Finset.mem_insert_self pointer _
  have hunregister := unregisterBuffer_eq host
    { retained with attr := { retained.attr with base := mapFailed } } t hvalid
  rw [freeBuffer]
  dsimp only
  rw [if_neg (not_not.mpr hmem), hunmapped, hunregister]
  refine if_congr Iff.rfl ?_ rfl
  rw [Held.dropped, ionFds_attrBase]
  dsimp only
  rw [Held.released, ← unmapAll_unmapAll]
  have hfailed : ∀ u : Held, u.unmapAll [mapFailed] = u := by
    intro u
    rw [unmapAll_eq_iff]
    exact fun a ha => .inr (.inl (List.mem_singleton.mp ha))
  rw [hfailed]

end

def BasesUnheld (s : Held) (hnd : PrivateHandle) : Prop :=
  ∀ p ∈ hnd.planes, p.base = 0 ∨ p.base = mapFailed ∨ s.mappings p.base = none

theorem released_eq_iff {s : Held} {hnd : PrivateHandle} :
    s.released hnd = s ↔ BasesUnheld s hnd ∧ HandlesUnheld s hnd.ionFds := by
  have hbases : BasesUnheld s hnd ↔ s.unmapAll (hnd.planes.map (·.base)) = s := by
    rw [unmapAll_eq_iff, List.forall_mem_map, BasesUnheld]
  rw [hbases, ← sub_handlesOf_eq_iff]
  constructor
  · intro h
    have hmaps : (s.released hnd).mappings = s.mappings := congrArg Held.mappings h
    exact ⟨Held.ext hmaps rfl rfl, congrArg Held.ionHandles h⟩
  · rintro ⟨hbases, hhnds⟩
    have hmaps := congrArg Held.mappings hbases
    exact Held.ext hmaps hhnds rfl

def Atomic (host : Host) (answers : Answers) (rawHandle : Option PrivateHandle) (s : Held) : Prop :=
  match importBuffer host answers rawHandle s with
  | (.error _, t) => t = s
  | (.ok (buffer, hnd), t) => (freeBuffer host buffer hnd t).2 = s

structure Undone (host : Host) (answers : Answers) (hnd : PrivateHandle) (pointer : Nat) (s : Held) :
    Prop where
  referenced : hnd.isLocal host → answers.mmapAttr ≠ none →
    (hnd.refCount = 0 → BasesUnheld s hnd ∧ HandlesUnheld s hnd.ionFds) ∧ (hnd.refCount ≠ 0 → pointer ∉ s.registered)
  abandoned : hnd.isLocal host = false → MapFails host answers hnd ∨ answers.mmapAttr = none →
    (MapFails host answers hnd ∨ skipsMap host hnd ∨ hnd.planes = []) ∧
      (importFails answers 0 hnd.ionFds → HandlesUnheld s (staleFds answers 0 hnd.ionFds)) ∧
      (importFails answers 0 hnd.ionFds = false → importedHandles answers 0 hnd.ionFds = 0)
  completed : hnd.isLocal host = false → ¬MapFails host answers hnd → answers.mmapAttr ≠ none →
    (skipsMap host hnd → BasesUnheld s hnd) ∧ HandlesUnheld s (staleFds answers 0 hnd.ionFds)

section
variable {host : Host} {answers : Answers} {hnd : PrivateHandle} {s : Held} {pointer : Nat}

variable {retained : PrivateHandle} {t : Held}

theorem atomic_of_retained (hclone : answers.clone = some pointer) (hvalid : hnd.validate host)
    (hretain : maliGrallocReferenceRetain host answers hnd s = (true, retained, t))
    (hretained : retained.validate host)
    (hfree : ∀ addr, answers.mmapAttr = some addr → t.Free addr) :
    Atomic host answers (some hnd) s ↔
      match answers.mmapAttr with
      | none => t = s
      | some addr =>
        (if retained.refCount = 1 ∧ retained.isLocal host = true then t.released retained
          else if pointer ∈ t.registered then t.map addr .attribute else t) = s := by
  have hreg : registerBuffer host answers hnd s = (none, retained, t) := by
    rw [registerBuffer, hvalid, hretain]
    rfl
  unfold Atomic importBuffer
  rw [hclone]
  dsimp only
  rw [hreg]
  cases hattr : answers.mmapAttr with
  | none => rfl
  | some addr =>
    have hregd : (t.map addr .attribute).registered = t.registered := rfl
    dsimp only
    rw [hregd]
    rcases Decidable.em (pointer ∈ t.registered) with hmem | hnew
    · rw [if_pos hmem, if_pos hmem]
      dsimp only
      rw [unregister_registered hretained (hfree addr hattr)]
    · rw [if_neg hnew, if_neg hnew]
      dsimp only
      rw [freeBuffer_registered hretained (hfree addr hattr) hnew]

theorem map_ne {m : Mapping} {addr : Nat} (h : s.mappings addr = none) : t.map addr m ≠ s := by
  intro heq
  have hat := congrFun (congrArg Held.mappings heq) addr
  rw [h] at hat
  dsimp only [Held.map] at hat
  rw [Function.update_self] at hat
  cases hat

theorem atomic_local (hclone : answers.clone = some pointer) (hvalid : hnd.validate host)
    (hlocal : hnd.isLocal host) (hfree : ∀ addr, answers.mmapAttr = some addr → s.Free addr) :
    Atomic host answers (some hnd) s ↔ Undone host answers hnd pointer s := by
  obtain ⟨retained, hretain, hretained, hlast, hrel⟩ : ∃ retained,
      maliGrallocReferenceRetain host answers hnd s = (true, retained, s) ∧ retained.validate host ∧
        (retained.refCount = 1 ∧ retained.isLocal host ↔ hnd.refCount = 0) ∧
        s.released retained = s.released hnd := by
    refine ⟨{ hnd with refCount := hnd.refCount + 1 }, ?_, hvalid, ⟨?_, ?_⟩, rfl⟩
    · rw [maliGrallocReferenceRetain, hvalid, hlocal]
      rfl
    · rintro ⟨hone, -⟩
      dsimp only at hone
      omega
    · exact fun hzero => ⟨by rw [hzero]; rfl, hlocal⟩
  have hremote : hnd.isLocal host ≠ false := by
    rw [hlocal]
    exact Bool.noConfusion
  rw [atomic_of_retained hclone hvalid hretain hretained hfree]
  cases hattr : answers.mmapAttr with
  | none =>
    refine iff_of_true rfl ⟨?_, fun h => absurd h hremote, fun h => absurd h hremote⟩
    intro _ hsome
    exact absurd hattr hsome
  | some addr =>
    have hunder : Undone host answers hnd pointer s ↔
        (hnd.refCount = 0 → BasesUnheld s hnd ∧ HandlesUnheld s hnd.ionFds) ∧
          (hnd.refCount ≠ 0 → pointer ∉ s.registered) := by
      constructor
      · intro h
        exact h.referenced hlocal (by rw [hattr]; exact Option.some_ne_none addr)
      · exact fun h => ⟨fun _ _ => h, fun h => absurd h hremote, fun h => absurd h hremote⟩
    rw [hunder, ← released_eq_iff, ← hrel]
    dsimp only
    rcases eq_or_ne hnd.refCount 0 with hzero | hmore
    · rw [if_pos (hlast.mpr hzero)]
      constructor
      · exact fun h => ⟨fun _ => h, fun hne => absurd hzero hne⟩
      · exact fun h => h.1 hzero
    · rw [if_neg fun h => hmore (hlast.mp h)]
      constructor
      · intro h
        refine ⟨fun hzero => absurd hzero hmore, fun _ hmem => ?_⟩
        rw [if_pos hmem] at h
        exact map_ne (hfree addr hattr).1 h
      · intro h
        rw [if_neg (h.2 hmore)]

theorem abandoned_iff {ok : Bool} (h : Retained host answers hnd s ok retained t) : t.ionHandles = s.ionHandles ↔
      (importFails answers 0 hnd.ionFds → HandlesUnheld s (staleFds answers 0 hnd.ionFds)) ∧
        (importFails answers 0 hnd.ionFds = false → importedHandles answers 0 hnd.ionFds = 0) := by
  rw [h.handles]
  cases importFails answers 0 hnd.ionFds with
  | true =>
    simp only [if_true, true_imp_iff, Bool.true_eq_false, false_imp_iff, and_true]
    exact sub_handlesOf_eq_iff s _
  | false =>
    simp only [Bool.false_eq_true, if_false, false_imp_iff, true_and, true_imp_iff]
    exact add_eq_right

theorem retained_mappings (h : Retained host answers hnd s true retained t) :
    (t.mappings = s.mappings ↔ skipsMap host hnd ∨ hnd.planes = []) ∧
      ((t.unmapAll (retained.planes.map (·.base))).mappings = s.mappings ↔
        (skipsMap host hnd → BasesUnheld s hnd)) ∧
      ∀ addr, s.Free addr → (∀ k < hnd.planes.length, answers.mmapPlane k ≠ some addr) →
        t.Free addr := by
  have hbases : BasesUnheld s hnd ↔ (s.unmapAll (hnd.planes.map (·.base))).mappings = s.mappings := by
    have hall : BasesUnheld s hnd ↔ s.unmapAll (hnd.planes.map (·.base)) = s := by
      rw [unmapAll_eq_iff, List.forall_mem_map, BasesUnheld]
    rw [hall]
    exact ⟨fun heq => congrArg Held.mappings heq, fun heq => Held.ext heq rfl rfl⟩
  have hunmapped : ∀ (u v : Held) (bases : List Nat), u.mappings = v.mappings →
      (u.unmapAll bases).mappings = (v.unmapAll bases).mappings := by
    intro u v bases hsame
    funext a
    rw [unmapAll_apply, unmapAll_apply, hsame]
  rcases h.mappings with ⟨-, hok, -⟩ | ⟨-, -, ⟨hskips, hsame, hmappings⟩ | ⟨hskips, hown, hlen, hmappings⟩⟩
  · cases hok
  · refine ⟨iff_of_true hmappings (.inl hskips), ?_, ?_⟩
    · rw [hsame, hunmapped t s _ hmappings, ← hbases]
      exact ⟨fun hunheld _ => hunheld, fun hunheld => hunheld hskips⟩
    · intro addr hfree _
      exact ⟨by rw [hmappings]; exact hfree.1, hfree.2⟩
  · have hmaps : skipsMap host hnd ≠ true := by
      rw [hskips]
      exact Bool.false_ne_true
    refine ⟨?_, ?_, ?_⟩
    · constructor
      · intro heq
        right
        rw [← List.length_eq_zero_iff, ← hlen, List.length_eq_zero_iff]
        rw [List.eq_nil_iff_forall_not_mem]
        intro p hp
        have hmem := List.mem_map_of_mem (f := (·.base)) hp
        have hat := congrFun (hmappings.symm.trans heq) p.base
        dsimp only [Held.mapAll] at hat
        rw [if_pos hmem, (hown _ hmem).1.1] at hat
        cases hat
      · rintro (hskip | hnil)
        · exact absurd hskip hmaps
        · have hnone : retained.planes = [] := by
            rw [← List.length_eq_zero_iff, hlen, hnil]
            rfl
          rw [hmappings, hnone]
          rfl
    · refine iff_of_true ?_ fun hskip => absurd hskip hmaps
      rw [hunmapped t _ _ hmappings, unmapAll_mapAll]
      · funext a
        rw [unmapAll_apply]
        split_ifs with hmem
        · exact (hown a hmem.1).1.1.symm
        · rfl
      · exact fun a ha => ⟨ha, (hown a ha).1.2⟩
    · intro addr hfree hother
      refine ⟨?_, hfree.2⟩
      rw [hmappings]
      dsimp only [Held.mapAll]
      rw [if_neg]
      · exact hfree.1
      · intro hmem
        obtain ⟨-, k, hk, hanswer⟩ := hown addr hmem
        exact hother k hk hanswer

theorem atomic_remote (hclone : answers.clone = some pointer) (hvalid : hnd.validate host)
    (hremote : hnd.isLocal host = false) (hfresh : answers.Fresh hnd.planes.length s) :
    Atomic host answers (some hnd) s ↔ Undone host answers hnd pointer s := by
  obtain ⟨ok, retained, t, hretain, h⟩ := retain_remote host answers hnd s hvalid hremote hfresh
  have hlocal : hnd.isLocal host ≠ true := by
    rw [hremote]
    exact Bool.noConfusion
  have heq : t = s ↔ t.mappings = s.mappings ∧ t.ionHandles = s.ionHandles := by
    constructor
    · rintro rfl
      exact ⟨rfl, rfl⟩
    · exact fun hsame => Held.ext hsame.1 hsame.2 h.registered
  rcases h.mappings with ⟨hfails, rfl, hmappings⟩ | ⟨hmaps, rfl, hcases⟩
  · have hatomic : Atomic host answers (some hnd) s ↔ t = s := by
      unfold Atomic importBuffer registerBuffer
      rw [hclone]
      dsimp only
      rw [hvalid, hretain]
      rfl
    rw [hatomic, heq, and_iff_right hmappings, abandoned_iff h]
    constructor
    · intro hhnds
      refine ⟨fun h => absurd h hlocal, fun _ _ => ⟨.inl hfails, hhnds⟩, fun _ h => absurd hfails h⟩
    · exact fun hundone => (hundone.abandoned hremote (.inl hfails)).2
  · obtain ⟨hkept, hrel, hfree⟩ := retained_mappings h
    have hfreeAttr : ∀ addr, answers.mmapAttr = some addr → t.Free addr := by
      intro addr haddr
      obtain ⟨hs, hother⟩ := hfresh.attr addr haddr
      exact hfree addr hs hother
    rw [atomic_of_retained hclone hvalid hretain h.valid hfreeAttr]
    cases hattr : answers.mmapAttr with
    | none =>
      dsimp only
      rw [heq, hkept, abandoned_iff h]
      constructor
      · rintro ⟨hnothing, hhnds⟩
        exact ⟨fun h => absurd h hlocal, fun _ _ => ⟨.inr hnothing, hhnds⟩,
          fun _ _ hsome => absurd hattr hsome⟩
      · intro hundone
        obtain ⟨hnothing, hhnds⟩ := hundone.abandoned hremote (.inr hattr)
        exact ⟨hnothing.resolve_left hmaps, hhnds⟩
    | some addr =>
      dsimp only
      rw [if_pos h.last]
      have hsome : answers.mmapAttr ≠ none := by
        rw [hattr]
        exact Option.some_ne_none addr
      have hres : t.released retained = s ↔ (t.unmapAll (retained.planes.map (·.base))).mappings = s.mappings ∧
            s.ionHandles - handlesOf (staleFds answers 0 hnd.ionFds) = s.ionHandles := by
        rw [← h.released]
        constructor
        · intro heq
          have hmappings : (t.released retained).mappings = s.mappings := congrArg Held.mappings heq
          exact ⟨hmappings, congrArg Held.ionHandles heq⟩
        · exact fun hboth => Held.ext hboth.1 hboth.2 h.registered
      rw [hres, hrel, sub_handlesOf_eq_iff]
      constructor
      · intro hboth
        refine ⟨fun h => absurd h hlocal, ?_, fun _ _ _ => hboth⟩
        rintro - (hfails | hnone)
        · exact absurd hfails hmaps
        · exact absurd hnone hsome
      · exact fun hundone => hundone.completed hremote hmaps hsome

end

/-- An import is atomic exactly if every case of it gives back what it acquired, and no more. -/
theorem importBuffer_atomic_iff (host : Host) (answers : Answers) (rawHandle : Option PrivateHandle)
    (s : Held) (hfresh : ∀ hnd, rawHandle = some hnd → answers.Fresh hnd.planes.length s) :
    Atomic host answers rawHandle s ↔ ∀ hnd pointer, rawHandle = some hnd → answers.clone = some pointer →
        hnd.validate host → Undone host answers hnd pointer s := by
  cases rawHandle with
  | none => exact iff_of_true rfl fun _ _ hsome => by cases hsome
  | some hnd =>
    have hfresh := hfresh hnd rfl
    cases hclone : answers.clone with
    | none =>
      refine iff_of_true ?_ fun _ _ _ hsome => by cases hsome
      unfold Atomic importBuffer
      rw [hclone]
    | some pointer =>
      cases hvalid : hnd.validate host with
      | false =>
        refine iff_of_true ?_ ?_
        · unfold Atomic importBuffer registerBuffer
          rw [hclone]
          dsimp only
          rw [hvalid]
          rfl
        · rintro _ _ ⟨⟩ - hvalid'
          rw [hvalid] at hvalid'
          cases hvalid'
      | true =>
        have hall : (∀ hnd' pointer', some hnd = some hnd' → some pointer = some pointer' →
            hnd'.validate host → Undone host answers hnd' pointer' s) ↔
              Undone host answers hnd pointer s := by
          constructor
          · exact fun h => h hnd pointer rfl rfl hvalid
          · rintro h _ _ ⟨⟩ ⟨⟩ -
            exact h
        rw [hall]
        cases hlocal : hnd.isLocal host with
        | true => exact atomic_local hclone hvalid hlocal fun addr haddr => (hfresh.attr addr haddr).1
        | false => exact atomic_remote hclone hvalid hlocal hfresh

def noResources : Held := ⟨fun _ => none, 0, ∅⟩

def client : Host := ⟨200, 100, false⟩

def allocatedHandle : PrivateHandle where
  version := nativeHandleSize
  numFds := 2
  numInts := 98
  magic := sMagic
  flags := 0#32
  planes := [⟨3, 0, 0⟩]
  attr := ⟨4, 0, 0⟩
  producerUsage := usageHwRender
  consumerUsage := usageHwTexture
  allocatingPid := 100
  remotePid := -1
  refCount := 1

def kernelAnswers (attr : Option Nat) : Answers where
  clone := some 1
  mmapPlane _ := some 0x1000
  mmapAttr := attr
  importHandle idx := some (idx + 1)

theorem importBuffer_atomic_allocated : Atomic client (kernelAnswers (some 0x2000)) (some allocatedHandle) noResources ↔
      ∀ hnd pointer, some allocatedHandle = some hnd →
        (kernelAnswers (some 0x2000)).clone = some pointer → hnd.validate client →
        Undone client (kernelAnswers (some 0x2000)) hnd pointer noResources := by
  apply importBuffer_atomic_iff
  rintro _ ⟨⟩
  constructor
  · rintro k hk a ⟨⟩
    exact ⟨rfl, by decide, by decide⟩
  · rintro a ⟨⟩
    refine ⟨⟨rfl, by decide, by decide⟩, ?_⟩
    intro k hk
    exact Option.some_injective _ |>.ne (by decide)

/-- Where the attributes cannot be mapped, the plane stays mapped and the ion handles imported; where
the plane cannot be mapped, the ion handles stay too. -/
theorem importBuffer_leaks : ¬Atomic client (kernelAnswers none) (some allocatedHandle) noResources ∧
      (importBuffer client (kernelAnswers none) (some allocatedHandle) noResources).2.mappings 0x1000 = some .plane ∧
      (importBuffer client { kernelAnswers none with mmapPlane := fun _ => none }
        (some allocatedHandle) noResources).2.ionHandles = {1, 2} := by
  refine ⟨?_, by decide, by decide⟩
  intro h
  have heq : (importBuffer client (kernelAnswers none) (some allocatedHandle) noResources).2 =
      noResources := h
  have hat := congrFun (congrArg Held.mappings heq) 0x1000
  exact absurd hat (by decide)

end ExynosHal.Gralloc
