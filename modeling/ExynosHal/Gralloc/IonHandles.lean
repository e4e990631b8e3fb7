import Mathlib.Data.List.GetD
import ExynosHal.Gralloc.ImportBuffer

/-! # Ion handles across an import

The ion handles of a handle are counted.
-/

namespace ExynosHal.Gralloc

def handlesOf (fds : List BufferFd) : Multiset Int := fds.foldr (fun p handles => addHandle p.ionHandle handles) 0

theorem addHandle_add (handle : Int) (a b : Multiset Int) : addHandle handle (a + b) = addHandle handle a + b := by
  rw [addHandle, addHandle]
  split_ifs with h
  · rfl
  · rw [Multiset.cons_add]

variable {fds : List BufferFd}

theorem mem_handlesOf_iff {handle : Int} :
    handle ∈ handlesOf fds ↔ handle ≠ 0 ∧ ∃ p ∈ fds, p.ionHandle = handle := by
  induction fds with
  | nil => simp [handlesOf]
  | cons p fds ih =>
    have hcons : handlesOf (p :: fds) = addHandle p.ionHandle (handlesOf fds) := rfl
    rw [hcons, addHandle]
    split_ifs with hzero
    · rw [ih]
      constructor
      · rintro ⟨hne, q, hq, heq⟩
        exact ⟨hne, q, List.mem_cons_of_mem p hq, heq⟩
      · rintro ⟨hne, q, hq, heq⟩
        rcases List.mem_cons.mp hq with rfl | hq
        · exact absurd (heq.symm.trans hzero) hne
        · exact ⟨hne, q, hq, heq⟩
    · rw [Multiset.mem_cons, ih]
      constructor
      · rintro (rfl | ⟨hne, q, hq, heq⟩)
        · exact ⟨hzero, p, List.mem_cons_self, rfl⟩
        · exact ⟨hne, q, List.mem_cons_of_mem p hq, heq⟩
      · rintro ⟨hne, q, hq, heq⟩
        rcases List.mem_cons.mp hq with rfl | hq
        · exact .inl heq.symm
        · exact .inr ⟨hne, q, hq, heq⟩

def HandlesUnheld (s : Held) (fds : List BufferFd) : Prop := ∀ p ∈ fds, p.ionHandle = 0 ∨ p.ionHandle ∉ s.ionHandles

theorem sub_handlesOf_eq_iff (s : Held) (fds : List BufferFd) :
    s.ionHandles - handlesOf fds = s.ionHandles ↔ HandlesUnheld s fds := by
  constructor
  · intro h p hp
    by_contra hnot
    obtain ⟨hne, hheld⟩ := not_or.mp hnot
    have hcnt := congrArg (Multiset.count p.ionHandle) h
    rw [Multiset.count_sub] at hcnt
    have hpos := Multiset.count_pos.mpr (mem_handlesOf_iff.mpr ⟨hne, p, hp, rfl⟩)
    have hheldPos := Multiset.count_pos.mpr (not_not.mp hheld)
    omega
  · intro h
    ext handle
    rw [Multiset.count_sub]
    rcases eq_or_ne (Multiset.count handle (handlesOf fds)) 0 with hzero | hne
    · rw [hzero, Nat.sub_zero]
    · obtain ⟨hnonzero, p, hp, rfl⟩ := mem_handlesOf_iff.mp (Multiset.count_ne_zero.mp hne)
      have hunheld := Multiset.count_eq_zero.mpr ((h p hp).resolve_left hnonzero)
      rw [hunheld, Nat.zero_sub]

theorem freeLoop_handles (fds : List BufferFd) (handles : Multiset Int) :
    (freeLoop fds handles).2 = handles - handlesOf fds := by
  induction fds generalizing handles with
  | nil => exact (Multiset.sub_zero handles).symm
  | cons p fds ih =>
    have hcons : handlesOf (p :: fds) = addHandle p.ionHandle (handlesOf fds) := rfl
    rw [freeLoop, hcons, addHandle]
    split_ifs with hfreed hzero hzero
    · exact absurd hzero hfreed.1
    · rw [Multiset.sub_cons]
      exact ih _
    · exact ih _
    · rw [Multiset.sub_cons, Multiset.erase_of_notMem fun hmem => hfreed ⟨hzero, hmem⟩]
      exact ih _

theorem freeLoop_left (fds : List BufferFd) (handles : Multiset Int) :
    (handles - handlesOf fds) - handlesOf (freeLoop fds handles).1 = handles - handlesOf fds := by
  have hleft : ∀ p ∈ (freeLoop fds handles).1, p.ionHandle = 0 ∨ p.ionHandle ∉ handles - handlesOf fds := by
    induction fds generalizing handles with
    | nil => exact List.forall_mem_nil _
    | cons p fds ih =>
      have hcons : handlesOf (p :: fds) = addHandle p.ionHandle (handlesOf fds) := rfl
      rw [freeLoop, hcons, addHandle]
      split_ifs with hfreed hzero hzero
      · exact absurd hzero hfreed.1
      · rw [Multiset.sub_cons]
        exact List.forall_mem_cons.mpr ⟨.inl rfl, ih _⟩
      · exact List.forall_mem_cons.mpr ⟨.inl hzero, ih _⟩
      · have hnot : p.ionHandle ∉ handles := fun hmem => hfreed ⟨hzero, hmem⟩
        rw [Multiset.sub_cons, Multiset.erase_of_notMem hnot]
        refine List.forall_mem_cons.mpr ⟨.inr ?_, ih _⟩
        exact fun hmem => hnot (Multiset.mem_of_le (Multiset.sub_le_self _ _) hmem)
  exact (sub_handlesOf_eq_iff ⟨fun _ => none, handles - handlesOf fds, ∅⟩ _).mpr hleft

def importFails (answers : Answers) : Nat → List BufferFd → Bool
  | _, [] => false
  | idx, p :: rest =>
    decide (0 ≤ p.fd) && (answers.importHandle idx).isNone || importFails answers (idx + 1) rest

def staleFds (answers : Answers) : Nat → List BufferFd → List BufferFd
  | _, [] => []
  | idx, p :: rest =>
    if 0 ≤ p.fd then
      match answers.importHandle idx with
      | none => p :: rest
      | some _ => staleFds answers (idx + 1) rest
    else p :: staleFds answers (idx + 1) rest

def importedHandles (answers : Answers) : Nat → List BufferFd → Multiset Int
  | _, [] => 0
  | idx, p :: rest =>
    if 0 ≤ p.fd then
      match answers.importHandle idx with
      | none => 0
      | some handle => addHandle handle (importedHandles answers (idx + 1) rest)
    else importedHandles answers (idx + 1) rest

theorem importLoop_spec (answers : Answers) (idx : Nat) (fds : List BufferFd) (handles : Multiset Int) :
    let r := importLoop answers idx fds handles
    r.1 = !importFails answers idx fds ∧ r.2.2 = importedHandles answers idx fds + handles ∧
      handlesOf r.2.1 = importedHandles answers idx fds + handlesOf (staleFds answers idx fds) ∧
      r.2.1.map (·.base) = fds.map (·.base) := by
  induction fds generalizing idx handles with
  | nil => exact ⟨rfl, (Multiset.zero_add handles).symm, rfl, rfl⟩
  | cons p fds ih =>
    simp only [importLoop, importFails, staleFds, importedHandles]
    split_ifs with hfd
    · cases hanswer : answers.importHandle idx with
      | none =>
        refine ⟨?_, (Multiset.zero_add handles).symm, (Multiset.zero_add _).symm, rfl⟩
        simp [hfd]
      | some handle =>
        obtain ⟨hok, hhnds, hleft, hbases⟩ := ih (idx + 1) (addHandle handle handles)
        refine ⟨?_, ?_, ?_, ?_⟩
        · simp [hok]
        · dsimp only
          rw [hhnds, ← addHandle_add, Multiset.add_comm, ← addHandle_add, Multiset.add_comm]
        · dsimp only
          rw [← addHandle_add, ← hleft]
          rfl
        · dsimp only
          rw [List.map_cons, hbases, List.map_cons]
    · obtain ⟨hok, hhnds, hleft, hbases⟩ := ih (idx + 1) handles
      refine ⟨?_, hhnds, ?_, ?_⟩
      · simp [hfd, hok]
      · have hcons : ∀ rest, handlesOf (p :: rest) = addHandle p.ionHandle (handlesOf rest) :=
          fun _ => rfl
        dsimp only
        rw [hcons, hcons, hleft, Multiset.add_comm, addHandle_add, Multiset.add_comm]
      · dsimp only
        rw [List.map_cons, hbases, List.map_cons]

section
variable (host : Host) (answers : Answers) (hnd : PrivateHandle) (s : Held)

theorem withIonFds_spec (h : fds.map (·.base) = hnd.ionFds.map (·.base)) :
    handlesOf (hnd.withIonFds fds).ionFds = handlesOf fds ∧
      (hnd.withIonFds fds).planes.map (·.base) = hnd.planes.map (·.base) ∧
      (hnd.withIonFds fds).attr.base = hnd.attr.base := by
  have hlen : fds.length = hnd.planes.length + 1 := by
    have hcnt := congrArg List.length h
    simpa [PrivateHandle.ionFds] using hcnt
  rcases List.eq_nil_or_concat' fds with rfl | ⟨planes, attr, rfl⟩
  · cases hlen
  have hplanes : planes.length = hnd.planes.length := by
    simpa using hlen
  have hwith : hnd.withIonFds (planes ++ [attr]) =
      { hnd with planes := planes, attr := { attr with fd := hnd.attr.fd } } := by
    rw [PrivateHandle.withIonFds, List.take_left' hplanes, List.getD_append_right _ _ _ _ hplanes.le,
      hplanes, Nat.sub_self]
    rfl
  rw [PrivateHandle.ionFds, List.map_append, List.map_append] at h
  obtain ⟨hbases, hattr⟩ := List.append_inj h (by rw [List.length_map, List.length_map, hplanes])
  rw [hwith]
  refine ⟨?_, hbases, (List.cons.inj hattr).1⟩
  simp [PrivateHandle.ionFds, handlesOf]

theorem freeLoop_bases (fds : List BufferFd) (handles : Multiset Int) :
    (freeLoop fds handles).1.map (·.base) = fds.map (·.base) := by
  induction fds generalizing handles with
  | nil => rfl
  | cons p fds ih =>
    rw [freeLoop]
    split_ifs <;> exact congrArg (p.base :: ·) (ih _)

theorem freeExynosIonHandles_spec :
    (freeExynosIonHandles hnd s).2 = { s with ionHandles := s.ionHandles - handlesOf hnd.ionFds } ∧
      (freeExynosIonHandles hnd s).1.planes.map (·.base) = hnd.planes.map (·.base) ∧
      (freeExynosIonHandles hnd s).1.attr.base = hnd.attr.base ∧
      s.ionHandles - handlesOf hnd.ionFds - handlesOf (freeExynosIonHandles hnd s).1.ionFds =
        s.ionHandles - handlesOf hnd.ionFds := by
  obtain ⟨hfds, hplanes, hattr⟩ := withIonFds_spec hnd (freeLoop_bases hnd.ionFds s.ionHandles)
  refine ⟨?_, hplanes, hattr, ?_⟩
  · rw [freeExynosIonHandles, ← freeLoop_handles]
  · have hagain := freeLoop_left hnd.ionFds s.ionHandles
    rw [← hfds] at hagain
    exact hagain

theorem importExynosIonHandles_spec : let r := importExynosIonHandles answers hnd s
    let stale := staleFds answers 0 hnd.ionFds
    r.2 = { s with
        ionHandles :=
          if importFails answers 0 hnd.ionFds then s.ionHandles - handlesOf stale
          else importedHandles answers 0 hnd.ionFds + s.ionHandles } ∧
      r.1.planes.map (·.base) = hnd.planes.map (·.base) ∧
      r.1.attr.base = hnd.attr.base ∧
      r.2.ionHandles - handlesOf r.1.ionFds = s.ionHandles - handlesOf stale := by
  obtain ⟨hok, hhnds, hleft, hbases⟩ := importLoop_spec answers 0 hnd.ionFds s.ionHandles
  obtain ⟨hfds, hplanes, hattr⟩ := withIonFds_spec hnd hbases
  simp only [importExynosIonHandles, hok, hhnds]
  cases importFails answers 0 hnd.ionFds with
  | true =>
    obtain ⟨hfree, hfreePlanes, hfreeAttr, hagain⟩ := freeExynosIonHandles_spec
      (hnd.withIonFds (importLoop answers 0 hnd.ionFds s.ionHandles).2.1)
      { s with ionHandles := importedHandles answers 0 hnd.ionFds + s.ionHandles }
    rw [hfds, hleft, add_tsub_add_eq_tsub_left] at hfree hagain
    refine ⟨hfree, hfreePlanes.trans hplanes, hfreeAttr.trans hattr, ?_⟩
    exact (congrArg (·.ionHandles - _) hfree).trans hagain
  | false =>
    refine ⟨rfl, hplanes, hattr, ?_⟩
    simp only [Bool.not_false, if_true]
    rw [hfds, hleft, add_tsub_add_eq_tsub_left]

end

end ExynosHal.Gralloc
