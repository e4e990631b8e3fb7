import ExynosHal.Gralloc.IonHandles

/-! # Retaining and releasing a handle

A release takes back what the handle says it has.
-/

namespace ExynosHal.Gralloc
open PrivateHandle (ionFds isLocal getShareAttrFd)

section
variable (host : Host) (hnd : PrivateHandle) (s : Held)

def Held.unmapAll (s : Held) (bases : List Nat) : Held := { s with
    mappings := fun a => if a ∈ bases ∧ a ≠ 0 ∧ a ≠ mapFailed then none else s.mappings a }

theorem unmapAll_apply (s : Held) (bases : List Nat) (a : Nat) :
    (s.unmapAll bases).mappings a = if a ∈ bases ∧ a ≠ 0 ∧ a ≠ mapFailed then none else s.mappings a :=
  rfl

theorem unmapBase_eq (s : Held) (base : Nat) : unmapBase s base = s.unmapAll [base] := by
  rw [unmapBase, Held.munmap]
  split_ifs with hzero hfailed
  · refine Held.ext (funext fun a => ?_) rfl rfl
    rw [unmapAll_apply]
    grind
  · refine Held.ext (funext fun a => ?_) rfl rfl
    dsimp only
    rw [unmapAll_apply, Function.update_apply]
    grind
  · refine Held.ext (funext fun a => ?_) rfl rfl
    rw [unmapAll_apply]
    grind

theorem unmapAll_unmapAll (s : Held) (bases others : List Nat) :
    (s.unmapAll bases).unmapAll others = s.unmapAll (bases ++ others) := by
  refine Held.ext (funext fun a => ?_) rfl rfl
  rw [unmapAll_apply, unmapAll_apply, unmapAll_apply]
  grind

theorem foldl_unmapBase (bases : List Nat) (s : Held) : bases.foldl unmapBase s = s.unmapAll bases := by
  induction bases generalizing s with
  | nil => simp [Held.unmapAll]
  | cons base bases ih => rw [List.foldl_cons, ih, unmapBase_eq, unmapAll_unmapAll, List.singleton_append]

def Held.dropped (s : Held) (hnd : PrivateHandle) : Held :=
  { s.unmapAll (hnd.planes.map (·.base) ++ [hnd.attr.base]) with
    ionHandles := s.ionHandles - handlesOf hnd.ionFds }

theorem freeAttr_eq : (freeAttr hnd s).2 = s.unmapAll [hnd.attr.base] := by
  rw [← unmapBase_eq, freeAttr, unmapBase]
  split_ifs <;> rfl

theorem maliGrallocBufferFree_eq : (maliGrallocBufferFree hnd s).2 = s.dropped hnd := by
  obtain ⟨hfree, hplanes, hattr, -⟩ := freeExynosIonHandles_spec hnd s
  rw [maliGrallocBufferFree]
  dsimp only
  rw [freeAttr_eq, maliGrallocIonUnmap]
  dsimp only
  rw [foldl_unmapBase, unmapAll_unmapAll, hfree, hplanes, hattr]
  rfl

theorem ionFds_unmap : handlesOf (maliGrallocIonUnmap hnd s).1.ionFds = handlesOf hnd.ionFds := by
  have hmap : ∀ fds : List BufferFd, ∀ handles, (fds.map BufferFd.unmapped).foldr
      (fun p handles => addHandle p.ionHandle handles) handles =
        fds.foldr (fun p handles => addHandle p.ionHandle handles) handles := by
    intro fds handles
    rw [List.foldr_map]
    rfl
  simp only [ionFds, handlesOf, List.foldr_append, maliGrallocIonUnmap, hmap]
  rfl

theorem releaseRemote_eq :
    (freeAttr (freeExynosIonHandles (maliGrallocIonUnmap hnd s).1 (maliGrallocIonUnmap hnd s).2).1
      (freeExynosIonHandles (maliGrallocIonUnmap hnd s).1 (maliGrallocIonUnmap hnd s).2).2).2 =
      s.dropped hnd := by
  obtain ⟨hfree, -, hattr, -⟩ := freeExynosIonHandles_spec (maliGrallocIonUnmap hnd s).1 (maliGrallocIonUnmap hnd s).2
  rw [freeAttr_eq, hfree, hattr, ionFds_unmap]
  dsimp only [maliGrallocIonUnmap]
  rw [foldl_unmapBase, Held.dropped, ← unmapAll_unmapAll]
  rfl

theorem maliGrallocReferenceRelease_eq (h : hnd.validate host) : (maliGrallocReferenceRelease host hnd s).2.2 =
      if hnd.refCount = 1 ∧ hnd.isLocal host = true then s.dropped hnd else s := by
  have hcnt : hnd.refCount - 1 = 0 ↔ hnd.refCount = 1 := by omega
  have hlocal : hnd.isLocal host ↔ hnd.allocatingPid = host.pid ∨ hnd.remotePid = host.pid := by
    rw [isLocal, Bool.or_eq_true, beq_iff_eq, beq_iff_eq]
  unfold maliGrallocReferenceRelease
  rw [h]
  simp only [Bool.not_true, Bool.false_eq_true, if_false, hcnt, hlocal]
  rcases eq_or_ne hnd.refCount 0 with hzero | hzero
  · rw [if_pos hzero, if_neg (by omega)]
  rw [if_neg hzero]
  rcases eq_or_ne hnd.allocatingPid host.pid with halloc | halloc
  · rw [if_pos halloc]
    rcases eq_or_ne hnd.refCount 1 with hone | hone
    · rw [if_pos hone, if_pos ⟨hone, .inl halloc⟩]
      exact maliGrallocBufferFree_eq { hnd with refCount := hnd.refCount - 1 } s
    · rw [if_neg hone, if_neg fun hlast => hone hlast.1]
  rw [if_neg halloc]
  rcases eq_or_ne hnd.remotePid host.pid with hremote | hremote
  · rw [if_pos hremote]
    rcases eq_or_ne hnd.refCount 1 with hone | hone
    · rw [if_pos hone, if_pos ⟨hone, .inr hremote⟩]
      exact releaseRemote_eq { hnd with refCount := hnd.refCount - 1 } s
    · rw [if_neg hone, if_neg fun hlast => hone hlast.1]
  · rw [if_neg hremote, if_neg fun hlast => hlast.2.elim halloc hremote]

theorem unregisterBuffer_eq (h : hnd.validate host) : (unregisterBuffer host hnd s).2.2 =
      if hnd.refCount = 1 ∧ hnd.isLocal host = true then s.dropped hnd else s := by
  rw [← maliGrallocReferenceRelease_eq host hnd s h, unregisterBuffer, h]
  rfl

end

theorem unmapAll_eq_iff {s : Held} {bases : List Nat} :
    s.unmapAll bases = s ↔ ∀ a ∈ bases, a = 0 ∨ a = mapFailed ∨ s.mappings a = none := by
  constructor
  · intro h a ha
    by_contra hnot
    obtain ⟨hzero, hrest⟩ := not_or.mp hnot
    obtain ⟨hfailed, hheld⟩ := not_or.mp hrest
    have hat := congrFun (congrArg Held.mappings h) a
    rw [unmapAll_apply, if_pos ⟨ha, hzero, hfailed⟩] at hat
    exact hheld hat.symm
  · intro h
    refine Held.ext (funext fun a => ?_) rfl rfl
    rw [unmapAll_apply]
    split_ifs with hmem
    · rcases h a hmem.1 with hzero | hfailed | hnone
      · exact absurd hzero hmem.2.1
      · exact absurd hfailed hmem.2.2
      · exact hnone.symm
    · rfl

def Held.mapAll (s : Held) (bases : List Nat) (m : Mapping) : Held :=
  { s with mappings := fun a => if a ∈ bases then some m else s.mappings a }

theorem map_eq_mapAll (s : Held) (addr : Nat) (m : Mapping) : s.map addr m = s.mapAll [addr] m := by
  refine Held.ext (funext fun a => ?_) rfl rfl
  dsimp only [Held.map, Held.mapAll]
  rw [Function.update_apply]
  grind

theorem mapAll_mapAll (s : Held) (bases others : List Nat) (m : Mapping) :
    (s.mapAll bases m).mapAll others m = s.mapAll (bases ++ others) m := by
  refine Held.ext (funext fun a => ?_) rfl rfl
  dsimp only [Held.mapAll]
  grind

def Held.Free (s : Held) (a : Nat) : Prop := s.mappings a = none ∧ a ≠ 0 ∧ a ≠ mapFailed

theorem unmapAll_mapAll {s : Held} {bases others : List Nat} (m : Mapping)
    (h : ∀ a ∈ bases, a ∈ others ∧ a ≠ 0 ∧ a ≠ mapFailed) :
    (s.mapAll bases m).unmapAll others = s.unmapAll others := by
  refine Held.ext (funext fun a => ?_) rfl rfl
  rw [unmapAll_apply, unmapAll_apply]
  dsimp only [Held.mapAll]
  grind

theorem foldl_munmap {done : List BufferFd} (h : ∀ p ∈ done, p.base ≠ 0) (s : Held) :
    done.foldl (fun s p => s.munmap p.base) s = s.unmapAll (done.map (·.base)) := by
  rw [← foldl_unmapBase, List.foldl_map]
  refine List.foldl_ext _ _ _ ?_
  intro s p hp
  rw [unmapBase, if_pos (h p hp)]

def BufferFd.ion (p : BufferFd) : Int × Int := (p.fd, p.ionHandle)

theorem ionMapLoop_spec {answers : Answers} {n : Nat} {s₀ : Held}
    (hfree : ∀ k < n, ∀ a, answers.mmapPlane k = some a → s₀.Free a) (done rest : List BufferFd)
    (hn : done.length + rest.length = n) (hdone : ∀ p ∈ done, s₀.Free p.base) (s : Held) :
    let r := ionMapLoop answers done rest s
    r.2.1.map BufferFd.ion = (done ++ rest).map BufferFd.ion ∧
      ∃ own : List Nat, (∀ a ∈ own, s₀.Free a ∧ ∃ k < n, answers.mmapPlane k = some a) ∧
        (r.1 ∧ (∀ k < rest.length, answers.mmapPlane (done.length + k) ≠ none) ∧
            r.2.1.map (·.base) = done.map (·.base) ++ own ∧ r.2.2 = s.mapAll own .plane ∨
          r.1 = false ∧ (∃ k < rest.length, answers.mmapPlane (done.length + k) = none) ∧
            r.2.2 = s.unmapAll (done.map (·.base) ++ own)) := by
  induction rest generalizing done s with
  | nil =>
    refine ⟨by simp [ionMapLoop], [], List.forall_mem_nil _, .inl ⟨rfl, ?_, ?_, ?_⟩⟩
    · intro k hk
      cases hk
    · exact (List.append_nil _).symm
    · simp [ionMapLoop, Held.mapAll]
  | cons p rest ih =>
    rw [List.length_cons] at hn
    rw [ionMapLoop]
    cases hanswer : answers.mmapPlane done.length with
    | none =>
      refine ⟨rfl, [], List.forall_mem_nil _, .inr ⟨rfl, ⟨0, Nat.succ_pos _, hanswer⟩, ?_⟩⟩
      rw [List.append_nil]
      exact foldl_munmap (fun p hp => (hdone p hp).2.1) s
    | some addr =>
      have haddr : s₀.Free addr := hfree done.length (by omega) addr hanswer
      have hdone' : ∀ q ∈ done ++ [{ p with base := addr }], s₀.Free q.base := by
        intro q hq
        rcases List.mem_append.mp hq with hq | hq
        · exact hdone q hq
        · rw [List.mem_singleton.mp hq]
          exact haddr
      obtain ⟨hion, own, hown, hcases⟩ := ih (done ++ [{ p with base := addr }])
        (by rw [List.length_append, List.length_singleton]; omega) hdone' (s.map addr .plane)
      refine ⟨?_, addr :: own, List.forall_mem_cons.mpr ⟨⟨haddr, done.length, by omega, hanswer⟩, hown⟩, ?_⟩
      · dsimp only
        rw [hion]
        simp [BufferFd.ion]
      · rw [List.length_append, List.length_singleton, List.map_append, List.append_assoc] at hcases
        rcases hcases with ⟨hok, hall, hbases, hmapped⟩ | ⟨hfail, ⟨k, hk, hnone⟩, hunmapped⟩
        · refine .inl ⟨hok, ?_, hbases, ?_⟩
          · intro k hk
            cases k with
            | zero =>
              rw [Nat.add_zero, hanswer]
              exact Option.some_ne_none addr
            | succ k =>
              rw [Nat.add_comm k, ← Nat.add_assoc]
              exact hall k (Nat.lt_of_succ_lt_succ hk)
          · dsimp only
            rw [hmapped, map_eq_mapAll, mapAll_mapAll]
            rfl
        · refine .inr ⟨hfail, ⟨k + 1, Nat.succ_lt_succ hk, ?_⟩, ?_⟩
          · rw [Nat.add_comm k, ← Nat.add_assoc]
            exact hnone
          · dsimp only
            rw [hunmapped, map_eq_mapAll, unmapAll_mapAll]
            · rfl
            · intro a ha
              rw [List.mem_singleton.mp ha]
              exact ⟨by simp, haddr.2⟩

variable {fds others : List BufferFd}

theorem handlesOf_congr (h : fds.map BufferFd.ion = others.map BufferFd.ion) :
    handlesOf fds = handlesOf others := by
  have hfold : ∀ fds : List BufferFd, handlesOf fds =
      (fds.map BufferFd.ion).foldr (fun p handles => addHandle p.2 handles) 0 := by
    intro fds
    rw [List.foldr_map]
    rfl
  rw [hfold, hfold, h]

theorem import_congr (answers : Answers) (h : fds.map BufferFd.ion = others.map BufferFd.ion) (idx : Nat) :
    importFails answers idx fds = importFails answers idx others ∧
      importedHandles answers idx fds = importedHandles answers idx others ∧
      (staleFds answers idx fds).map BufferFd.ion = (staleFds answers idx others).map BufferFd.ion := by
  induction fds generalizing others idx with
  | nil =>
    have hnil : others = [] := List.map_eq_nil_iff.mp h.symm
    subst hnil
    exact ⟨rfl, rfl, rfl⟩
  | cons p fds ih =>
    cases others with
    | nil => cases h
    | cons q others =>
      obtain ⟨hhead, htail⟩ := List.cons.inj h
      have hfd : p.fd = q.fd := congrArg Prod.fst hhead
      obtain ⟨hfails, himported, hstale⟩ := ih htail (idx + 1)
      simp only [importFails, importedHandles, staleFds, hfd, hfails, himported]
      split_ifs
      · cases answers.importHandle idx with
        | none => exact ⟨trivial, trivial, h⟩
        | some handle => exact ⟨trivial, trivial, hstale⟩
      · exact ⟨trivial, trivial, congrArg₂ List.cons hhead hstale⟩

structure Answers.Fresh (answers : Answers) (n : Nat) (s : Held) : Prop where
  plane : ∀ k < n, ∀ a, answers.mmapPlane k = some a → s.Free a
  attr : ∀ a, answers.mmapAttr = some a → s.Free a ∧ ∀ k < n, answers.mmapPlane k ≠ some a

section
variable (host : Host) (answers : Answers) (hnd : PrivateHandle) (s : Held)

def MapFails : Prop := skipsMap host hnd = false ∧ ∃ k < hnd.planes.length, answers.mmapPlane k = none

theorem maliGrallocIonMap_spec (hfresh : answers.Fresh hnd.planes.length s) :
    let r := maliGrallocIonMap host answers hnd s
    r.2.1 = { hnd with planes := r.2.1.planes } ∧ r.2.1.planes.map BufferFd.ion = hnd.planes.map BufferFd.ion ∧
      (MapFails host answers hnd ∧ r.1 = false ∧ r.2.2 = s ∨ ¬MapFails host answers hnd ∧ r.1 ∧
          (skipsMap host hnd ∧ r.2.1 = hnd ∧ r.2.2 = s ∨
            skipsMap host hnd = false ∧ (∀ a ∈ r.2.1.planes.map (·.base), s.Free a ∧
                ∃ k < hnd.planes.length, answers.mmapPlane k = some a) ∧
              r.2.2 = s.mapAll (r.2.1.planes.map (·.base)) .plane)) := by
  rw [maliGrallocIonMap]
  split_ifs with hskips
  · refine ⟨rfl, rfl, .inr ⟨?_, rfl, .inl ⟨hskips, rfl, rfl⟩⟩⟩
    rintro ⟨hmaps, -⟩
    rw [hskips] at hmaps
    cases hmaps
  · rw [Bool.not_eq_true] at hskips
    obtain ⟨hion, own, hown, hcases⟩ := ionMapLoop_spec hfresh.plane [] hnd.planes
      (by rw [List.length_nil, Nat.zero_add]) (List.forall_mem_nil _) s
    refine ⟨rfl, hion, ?_⟩
    simp only [List.length_nil, Nat.zero_add, List.map_nil, List.nil_append] at hcases
    rcases hcases with ⟨hok, hall, hbases, hmapped⟩ | ⟨hfail, hnone, hunmapped⟩
    · refine .inr ⟨?_, hok, .inr ⟨hskips, ?_, ?_⟩⟩
      · rintro ⟨-, k, hk, hnone⟩
        exact hall k hk hnone
      · intro a ha
        apply hown
        rwa [← hbases]
      · dsimp only
        rw [hbases, hmapped]
    · refine .inl ⟨⟨hskips, hnone⟩, hfail, ?_⟩
      dsimp only
      rw [hunmapped, unmapAll_eq_iff]
      exact fun a ha => .inr (.inr (hown a ha).1.1)

theorem importExynosIonHandles_kept : (importExynosIonHandles answers hnd s).1.validate host = hnd.validate host ∧
      (importExynosIonHandles answers hnd s).1.refCount = hnd.refCount ∧
      (importExynosIonHandles answers hnd s).1.isLocal host = hnd.isLocal host := by
  rw [importExynosIonHandles]
  dsimp only
  split_ifs <;> exact ⟨rfl, rfl, rfl⟩

structure Retained (ok : Bool) (retained : PrivateHandle) (t : Held) : Prop where
  valid : retained.validate host
  last : retained.refCount = 1 ∧ retained.isLocal host
  registered : t.registered = s.registered
  handles : t.ionHandles =
    if importFails answers 0 hnd.ionFds then s.ionHandles - handlesOf (staleFds answers 0 hnd.ionFds)
    else importedHandles answers 0 hnd.ionFds + s.ionHandles
  released : t.ionHandles - handlesOf retained.ionFds = s.ionHandles - handlesOf (staleFds answers 0 hnd.ionFds)
  mappings : MapFails host answers hnd ∧ ok = false ∧ t.mappings = s.mappings ∨ ¬MapFails host answers hnd ∧ ok ∧
      (skipsMap host hnd ∧ retained.planes.map (·.base) = hnd.planes.map (·.base) ∧ t.mappings = s.mappings ∨
        skipsMap host hnd = false ∧ (∀ a ∈ retained.planes.map (·.base), s.Free a ∧
            ∃ k < hnd.planes.length, answers.mmapPlane k = some a) ∧
          retained.planes.length = hnd.planes.length ∧
          t.mappings = (s.mapAll (retained.planes.map (·.base)) .plane).mappings)

theorem retain_remote (hvalid : hnd.validate host) (hremote : hnd.isLocal host = false)
    (hfresh : answers.Fresh hnd.planes.length s) :
    ∃ ok retained t, maliGrallocReferenceRetain host answers hnd s = (ok, retained, t) ∧
      Retained host answers hnd s ok retained t := by
  obtain ⟨hkept, hion, hcases⟩ := maliGrallocIonMap_spec host answers
    { hnd with remotePid := host.pid, refCount := 1 } s hfresh
  have hretain : maliGrallocReferenceRetain host answers hnd s =
      let r := maliGrallocIonMap host answers { hnd with remotePid := host.pid, refCount := 1 } s
      (r.1, importExynosIonHandles answers r.2.1 r.2.2) := by
    rw [maliGrallocReferenceRetain, hvalid, hremote]
    rfl
  generalize maliGrallocIonMap host answers { hnd with remotePid := host.pid, refCount := 1 } s =
    mapped at hkept hion hcases hretain
  obtain ⟨ok, mappedHnd, u⟩ := mapped
  dsimp only at hkept hion hcases hretain
  have hlen : mappedHnd.planes.length = hnd.planes.length := by
    have hcnt := congrArg List.length hion
    rwa [List.length_map, List.length_map] at hcnt
  have hattr : mappedHnd.attr = hnd.attr := by
    rw [hkept]
  have hfds : mappedHnd.ionFds.map BufferFd.ion = hnd.ionFds.map BufferFd.ion := by
    rw [ionFds, ionFds, List.map_append, List.map_append, hion,
      getShareAttrFd, getShareAttrFd, hlen, hattr]
  obtain ⟨hstate, hbases, -, hrel⟩ := importExynosIonHandles_spec answers mappedHnd u
  obtain ⟨hvalid', hcnt', hlocal'⟩ := importExynosIonHandles_kept host answers mappedHnd u
  obtain ⟨hfails, himported, hstale⟩ := import_congr answers hfds 0
  rw [hfails, himported, handlesOf_congr hstale] at hstate
  rw [handlesOf_congr hstale] at hrel
  have hu : u.ionHandles = s.ionHandles ∧ u.registered = s.registered := by
    rcases hcases with ⟨-, -, rfl⟩ | ⟨-, -, ⟨-, -, rfl⟩ | ⟨-, -, rfl⟩⟩ <;> exact ⟨rfl, rfl⟩
  rw [hu.1] at hstate hrel
  generalize importExynosIonHandles answers mappedHnd u = r at hretain hstate hbases hrel hvalid' hcnt' hlocal'
  obtain ⟨retained, t⟩ := r
  dsimp only at hretain hstate hbases hrel hvalid' hcnt' hlocal'
  refine ⟨ok, retained, t, hretain, ?_⟩
  constructor
  · rw [hvalid', hkept]
    exact hvalid
  · rw [hcnt', hlocal', hkept]
    refine ⟨rfl, ?_⟩
    simp [isLocal]
  · rw [hstate]
    exact hu.2
  · rw [hstate]
  · exact hrel
  · have hmappings : t.mappings = u.mappings := by rw [hstate]
    rw [hmappings, hbases]
    rcases hcases with ⟨hfail, hok, rfl⟩ | ⟨hmaps, hok, ⟨hskips, hsame, rfl⟩ | ⟨hskips, hown, rfl⟩⟩
    · exact .inl ⟨hfail, hok, rfl⟩
    · exact .inr ⟨hmaps, hok, .inl ⟨hskips, by rw [hsame], rfl⟩⟩
    · refine .inr ⟨hmaps, hok, .inr ⟨hskips, hown, ?_, rfl⟩⟩
      have hcnt := congrArg List.length hbases
      rw [List.length_map, List.length_map] at hcnt
      exact hcnt.trans hlen

end

end ExynosHal.Gralloc
