import ExynosHal.Strongbox.OperationPower

/-! # The table of operations and its count

The calls once more, with `ssp_op_count` beside the buckets. The life of a handle is read off that.
-/

namespace ExynosHal.Strongbox.OperationTable
open Library Library.Run Params Operation OperationPower

structure SspSession where
  session : Session
  sspOpCount : U32

def SspSession.bucket (s : SspSession) (i : Fin 4) : SspOperation := s.session.sspOperation.get i

def sspOpen (algorithms : Fin 4 → U32) (refcount : Int) : SspSession := ⟨Operation.sspOpen algorithms refcount, 0⟩

def SspSession.takeBucket (s : SspSession) (i : Fin 4) (operation : SspOperation) : SspSession :=
  ⟨setSspOperation s.session i operation, s.sspOpCount + 1⟩

def SspSession.freeSspOperationBucket (s : SspSession) (i : Fin 4) : SspSession :=
  if (s.bucket i).used then ⟨Operation.freeSspOperationBucket s.session i, s.sspOpCount - 1⟩ else s

def sspBegin (args : BeginArgs) (invocation : Invocation) (s : SspSession) :
    Except KmErrorCode (U64 × List KeyParam) × SspSession :=
  match sspExchange (beginRequest args) (some invocation) s.session.enable with
  | (.error e, t) => (.error e, { s with session := t.disable })
  | (.ok reply, t) =>
    match beginOutParams args reply.begin with
    | .error e => (.error e, { s with session := t.disable })
    | .ok outParams =>
      match allocSspOperationBucket t with
      | none => (.error kmErrorTooManyOperations, { s with session := t.disable })
      | some i =>
        let operation := ⟨reply.begin.opHandle, reply.begin.algorithm, reply.begin.finalLen.toNat, true⟩
        (.ok (reply.begin.opHandle, outParams), SspSession.takeBucket { s with session := t } i operation)

def endUpdate {α : Type} (i : Fin 4) (s : SspSession) (result : Except KmErrorCode α × Session) :
    Except KmErrorCode α × SspSession :=
  match result with
  | (.error e, t) =>
    (.error e, SspSession.freeSspOperationBucket { s with session := disableUnlessInvalidHandle e t } i)
  | (.ok out, t) => (.ok out, { s with session := t })

/-- `end` of `ssp_finish` and `ssp_abort`. -/
def endOperation {α : Type} (i : Fin 4) (s : SspSession) (result : Except KmErrorCode α × Session) :
    Except KmErrorCode α × SspSession :=
  match result with
  | (.error e, t) =>
    (.error e, SspSession.freeSspOperationBucket { s with session := disableUnlessInvalidHandle e t } i)
  | (.ok out, t) => (.ok out, SspSession.freeSspOperationBucket { s with session := t.disable } i)

def sspUpdateAad (opHandle : U64) (args : UpdateAadArgs) (invocation : Invocation) (s : SspSession) :
    Except KmErrorCode Reply × SspSession :=
  match findSspOperationHandle s.session opHandle with
  | none => (.error kmErrorInvalidOperationHandle, s)
  | some i => endUpdate i s (sspExchange (updateAadRequest args (s.bucket i)) (some invocation) s.session)

def sspUpdate (opHandle : U64) (args : UpdateArgs) (invocations : List Invocation) (s : SspSession) :
    Except KmErrorCode SubsampleState × SspSession :=
  match findSspOperationHandle s.session opHandle with
  | none => (.error kmErrorInvalidOperationHandle, s)
  | some i =>
    endUpdate i s (subsampleInputData ⟨args.authToken, args.timestampToken, 0, 0, false⟩ invocations
      ⟨inputCursor args.inputLen, updateOutput args (s.bucket i), false, 0, 0⟩ s.session)

def sspFinish (opHandle : U64) (args : FinishArgs) (invocations : List Invocation) (s : SspSession) :
    Except KmErrorCode SubsampleState × SspSession :=
  match findSspOperationHandle s.session opHandle with
  | none => (.error kmErrorInvalidOperationHandle, s)
  | some i => endOperation i s (finishBody args (s.bucket i) invocations s.session)

def sspAbort (opHandle : U64) (invocation : Invocation) (s : SspSession) :
    Except KmErrorCode Reply × SspSession :=
  match findSspOperationHandle s.session opHandle with
  | none => (.error kmErrorInvalidOperationHandle, s)
  | some i => endOperation i s (sspExchange (.ok ()) (some invocation) s.session)

def step (s : SspSession) : Call → SspSession
  | .begin args invocation => (sspBegin args invocation s).2
  | .updateAad opHandle args invocation => (sspUpdateAad opHandle args invocation s).2
  | .update opHandle args invocations => (sspUpdate opHandle args invocations s).2
  | .finish opHandle args invocations => (sspFinish opHandle args invocations s).2
  | .abort opHandle invocation => (sspAbort opHandle invocation s).2

variable {α : Type}

theorem sspOperation_roundTrip {table : Vector SspOperation 4} (s : Session) (hs : s.sspOperation = table) :
    s.enable.disable.sspOperation = table :=
  hs

theorem disableUnlessInvalidHandle_sspOperation (e : KmErrorCode) (s : Session) :
    (disableUnlessInvalidHandle e s).sspOperation = s.sspOperation := by
  rw [disableUnlessInvalidHandle]
  split_ifs <;> rfl

def Holds (s : SspSession) (opHandle : U64) : Prop :=
  ∃ i, (s.bucket i).used ∧ (s.bucket i).handle = opHandle

def Issues (s : SspSession) (opHandle : U64) : Call → Prop
  | .begin args invocation => ∃ outParams, (sspBegin args invocation s).1 = .ok (opHandle, outParams)
  | _ => False

def Releases (s : SspSession) (opHandle : U64) : Call → Prop
  | .begin _ _ => False
  | .updateAad h args invocation => h = opHandle ∧ ∃ e, (sspUpdateAad h args invocation s).1 = .error e
  | .update h args invocations => h = opHandle ∧ ∃ e, (sspUpdate h args invocations s).1 = .error e
  | .finish h _ _ => h = opHandle
  | .abort h _ => h = opHandle

def handleOf : Call → Option U64
  | .begin _ _ => none
  | .updateAad h _ _ => some h
  | .update h _ _ => some h
  | .finish h _ _ => some h
  | .abort h _ => some h

variable {s : SspSession} {opHandle : U64} {call : Call}

theorem handleOf_of_releases (h : Releases s opHandle call) : handleOf call = some opHandle := by
  cases call with
  | begin args invocation => exact h.elim
  | updateAad _ args invocation => exact congrArg some h.1
  | update _ args invocations => exact congrArg some h.1
  | finish _ args invocations => exact congrArg some h
  | abort _ invocation => exact congrArg some h

variable {i : Fin 4}

theorem find_some (h : findSspOperationHandle s.session opHandle = some i) :
    (s.bucket i).used ∧ (s.bucket i).handle = opHandle := by
  have hfound := List.find?_some h
  rw [Bool.and_eq_true, decide_eq_true_eq] at hfound
  exact hfound

theorem find_isSome_iff (s : SspSession) (opHandle : U64) :
    (findSspOperationHandle s.session opHandle).isSome ↔ Holds s opHandle := by
  constructor
  · intro h
    obtain ⟨i, hfind⟩ := Option.isSome_iff_exists.mp h
    exact ⟨i, find_some hfind⟩
  · rintro ⟨i, hused, hhnd⟩
    rw [findSspOperationHandle, List.find?_isSome]
    refine ⟨i, List.mem_finRange i, ?_⟩
    rw [Bool.and_eq_true, decide_eq_true_eq]
    exact ⟨hused, hhnd⟩

def ElsewhereSame (i : Fin 4) (s t : SspSession) : Prop := ∀ j, j ≠ i → t.bucket j = s.bucket j

inductive Effect (s : SspSession) (call : Call) (t : SspSession) : Prop
  | kept (htable : t.session.sspOperation = s.session.sspOperation) (hcnt : t.sspOpCount = s.sspOpCount)
      (hissues : ∀ opHandle, ¬Issues s opHandle call)
      (hreleases : ∀ opHandle, Releases s opHandle call → findSspOperationHandle s.session opHandle = none)
  | taken (i : Fin 4) (hfree : (s.bucket i).used = false) (hused : (t.bucket i).used)
      (helsewhere : ElsewhereSame i s t) (hcnt : t.sspOpCount = s.sspOpCount + 1) (hcall : handleOf call = none)
      (hissues : ∀ opHandle, Issues s opHandle call ↔ (t.bucket i).handle = opHandle)
  | freed (i : Fin 4) (opHandle : U64) (hfind : findSspOperationHandle s.session opHandle = some i)
      (hfree : (t.bucket i).used = false) (helsewhere : ElsewhereSame i s t)
      (hcnt : t.sspOpCount = s.sspOpCount - 1) (hcall : handleOf call = some opHandle)
      (hreleases : Releases s opHandle call)

theorem bucket_set (s : SspSession) (i j : Fin 4) (operation : SspOperation) (count : U32) :
    SspSession.bucket ⟨setSspOperation s.session i operation, count⟩ j = if i = j then operation else s.bucket j := by
  rw [SspSession.bucket, SspSession.bucket]
  exact (Vector.getElem_set i.isLt j.isLt).trans (if_congr Fin.val_inj rfl rfl)

theorem effect_free {u : Session}
    (hfind : findSspOperationHandle s.session opHandle = some i) (hsame : u.sspOperation = s.session.sspOperation)
    (hcall : handleOf call = some opHandle) (hreleases : Releases s opHandle call) :
    Effect s call (SspSession.freeSspOperationBucket { s with session := u } i) := by
  have hbucket : ∀ j, SspSession.bucket { s with session := u } j = s.bucket j := by
    intro j
    rw [SspSession.bucket, hsame]
    rfl
  have hused : (SspSession.bucket { s with session := u } i).used := by
    rw [hbucket]
    exact (find_some hfind).1
  have hfreed : SspSession.freeSspOperationBucket { s with session := u } i =
      ⟨setSspOperation u i { u.sspOperation.get i with used := false, finalLen := 0, handle := 0 },
        s.sspOpCount - 1⟩ := by
    rw [SspSession.freeSspOperationBucket, if_pos hused]
    exact congrArg (SspSession.mk · _) (if_pos hused)
  rw [hfreed]
  refine .freed i opHandle hfind ?_ ?_ rfl hcall hreleases
  · rw [bucket_set { s with session := u }, if_pos rfl]
  · intro j hj
    rw [bucket_set { s with session := u }, if_neg (Ne.symm hj), hbucket]

variable {result : Except KmErrorCode α × Session}

theorem effect_endUpdate (hfind : findSspOperationHandle s.session opHandle = some i)
    (hsame : result.2.sspOperation = s.session.sspOperation) (hcall : handleOf call = some opHandle)
    (hissues : ∀ h, ¬Issues s h call)
    (hreleases : ∀ h, Releases s h call ↔ opHandle = h ∧ ∃ e, (endUpdate i s result).1 = .error e) :
    Effect s call (endUpdate i s result).2 := by
  obtain ⟨e | out, u⟩ := result
  · apply effect_free hfind _ hcall
    · exact (hreleases opHandle).mpr ⟨rfl, e, rfl⟩
    · exact (disableUnlessInvalidHandle_sspOperation e u).trans hsame
  · refine .kept hsame rfl hissues fun h hrel => ?_
    obtain ⟨-, e, herr⟩ := (hreleases h).mp hrel
    cases herr

theorem effect_endOperation (hfind : findSspOperationHandle s.session opHandle = some i)
    (hsame : result.2.sspOperation = s.session.sspOperation) (hcall : handleOf call = some opHandle)
    (hreleases : Releases s opHandle call) : Effect s call (endOperation i s result).2 := by
  obtain ⟨e | out, u⟩ := result
  · apply effect_free hfind _ hcall hreleases
    exact (disableUnlessInvalidHandle_sspOperation e u).trans hsame
  · exact effect_free hfind hsame hcall hreleases

theorem effect_sspBegin (s : SspSession) (args : BeginArgs) (invocation : Invocation) :
    Effect s (.begin args invocation) (sspBegin args invocation s).2 := by
  have hsame := sspExchange_keeps sspOperation_roundTrip (beginRequest args) (some invocation) (s := s.session.enable)
    rfl
  have hissues : ∀ opHandle, Issues s opHandle (.begin args invocation) ↔
      ∃ outParams, (sspBegin args invocation s).1 = .ok (opHandle, outParams) := fun _ => Iff.rfl
  generalize hres : sspBegin args invocation s = result at hissues
  rw [sspBegin] at hres
  rcases hexch : sspExchange (beginRequest args) (some invocation) s.session.enable with ⟨e | reply, t⟩
  all_goals
    rw [hexch] at hsame hres
    dsimp only at hres
  · cases hres
    refine .kept hsame rfl (fun opHandle h => ?_) fun opHandle h => h.elim
    obtain ⟨outParams, herr⟩ := (hissues opHandle).mp h
    cases herr
  · rcases hout : beginOutParams args reply.begin with e | outParams
    · rw [hout] at hres
      cases hres
      refine .kept hsame rfl (fun opHandle h => ?_) fun opHandle h => h.elim
      obtain ⟨outParams, herr⟩ := (hissues opHandle).mp h
      cases herr
    · rw [hout] at hres
      dsimp only at hres
      cases halloc : allocSspOperationBucket t with
      | none =>
        rw [halloc] at hres
        cases hres
        refine .kept hsame rfl (fun opHandle h => ?_) fun opHandle h => h.elim
        obtain ⟨outParams, herr⟩ := (hissues opHandle).mp h
        cases herr
      | some i =>
        rw [halloc] at hres
        cases hres
        have hbucket : ∀ j, SspSession.bucket { s with session := t } j = s.bucket j := by
          intro j
          rw [SspSession.bucket, hsame]
          rfl
        have hself : ∀ operation, (SspSession.takeBucket { s with session := t } i operation).bucket i = operation := by
          intro operation
          exact (bucket_set { s with session := t } i i operation _).trans (if_pos rfl)
        refine .taken i ?_ ?_ ?_ rfl rfl fun opHandle => ?_
        · rw [← hbucket]
          exact not_used_of_alloc halloc
        · rw [hself]
        · intro j hj
          rw [← hbucket]
          exact (bucket_set { s with session := t } i j _ _).trans (if_neg (Ne.symm hj))
        · rw [hissues, hself]
          constructor
          · rintro ⟨out, hout⟩
            cases hout
            rfl
          · rintro rfl
            exact ⟨outParams, rfl⟩

theorem effect_step (s : SspSession) (call : Call) : Effect s call (step s call) := by
  cases call with
  | begin args invocation => exact effect_sspBegin s args invocation
  | updateAad opHandle args invocation =>
    have hreleases : ∀ h, Releases s h (.updateAad opHandle args invocation) ↔
        opHandle = h ∧ ∃ e, (sspUpdateAad opHandle args invocation s).1 = .error e := fun _ => Iff.rfl
    rw [step]
    rw [sspUpdateAad] at hreleases ⊢
    cases hfind : findSspOperationHandle s.session opHandle with
    | none => exact .kept rfl rfl (fun _ => id) fun _ h => h.1 ▸ hfind
    | some i =>
      rw [hfind] at hreleases
      exact effect_endUpdate hfind (sspExchange_keeps sspOperation_roundTrip _ _ rfl) rfl (fun _ => id) hreleases
  | update opHandle args invocations =>
    have hreleases : ∀ h, Releases s h (.update opHandle args invocations) ↔
        opHandle = h ∧ ∃ e, (sspUpdate opHandle args invocations s).1 = .error e := fun _ => Iff.rfl
    rw [step]
    rw [sspUpdate] at hreleases ⊢
    cases hfind : findSspOperationHandle s.session opHandle with
    | none => exact .kept rfl rfl (fun _ => id) fun _ h => h.1 ▸ hfind
    | some i =>
      rw [hfind] at hreleases
      exact effect_endUpdate hfind (subsampleInputData_keeps sspOperation_roundTrip _ _ _ rfl) rfl
        (fun _ => id) hreleases
  | finish opHandle args invocations =>
    rw [step, sspFinish]
    cases hfind : findSspOperationHandle s.session opHandle with
    | none => exact .kept rfl rfl (fun _ => id) fun _ h => h ▸ hfind
    | some i => exact effect_endOperation hfind (finishBody_keeps sspOperation_roundTrip _ _ _ rfl) rfl rfl
  | abort opHandle invocation =>
    rw [step, sspAbort]
    cases hfind : findSspOperationHandle s.session opHandle with
    | none => exact .kept rfl rfl (fun _ => id) fun _ h => h ▸ hfind
    | some i => exact effect_endOperation hfind (sspExchange_keeps sspOperation_roundTrip _ _ rfl) rfl rfl

def Counted (s : SspSession) : Prop := s.sspOpCount.toNat = usedBuckets s.session ∧ usedBuckets s.session ≤ 4

def Distinct (s : SspSession) : Prop :=
  ∀ i j, (s.bucket i).used → (s.bucket j).used → (s.bucket i).handle = (s.bucket j).handle → i = j

def Fresh (s : SspSession) (call : Call) : Prop := ∀ opHandle, Issues s opHandle call → ¬Holds s opHandle

def ChangesOwnBucket (s : SspSession) (call : Call) : Prop := ∀ i, (step s call).bucket i ≠ s.bucket i →
    match handleOf call with
    | some opHandle => (s.bucket i).used ∧ (s.bucket i).handle = opHandle
    | none => (s.bucket i).used = false

theorem bucket_of_same {s t : SspSession} (h : t.session.sspOperation = s.session.sspOperation) (i : Fin 4) :
    t.bucket i = s.bucket i := congrArg (·.get i) h

theorem usedBuckets_le (s : Session) : usedBuckets s ≤ 4 := Vector.countP_le_size

theorem usedBuckets_elsewhereSame {s t : SspSession} (h : ElsewhereSame i s t) :
    usedBuckets t.session + (if (s.bucket i).used then 1 else 0) =
      usedBuckets s.session + if (t.bucket i).used then 1 else 0 := by
  have htable : t.session.sspOperation = (setSspOperation s.session i (t.bucket i)).sspOperation := by
    apply Vector.ext
    intro j hj
    have hset := bucket_set s i ⟨j, hj⟩ (t.bucket i) s.sspOpCount
    change t.bucket ⟨j, hj⟩ = _
    refine Eq.trans ?_ hset.symm
    split_ifs with heq
    · rw [heq]
    · exact h _ (Ne.symm heq)
  have hset := usedBuckets_set s.session i (t.bucket i)
  rw [usedBuckets, htable]
  exact hset

theorem counted_step (s : SspSession) (call : Call) (h : Counted s) : Counted (step s call) := by
  obtain ⟨hcounted, -⟩ := h
  have hone : (1 : U32).toNat = 1 := rfl
  refine ⟨?_, usedBuckets_le _⟩
  rcases effect_step s call with ⟨htable, hcnt, -, -⟩ | ⟨i, hfree, hused, helsewhere, hcnt, -, -⟩ |
    ⟨i, opHandle, hfind, hfree, helsewhere, hcnt, -, -⟩
  · rw [hcnt, usedBuckets, htable]
    exact hcounted
  · have htotal := usedBuckets_elsewhereSame helsewhere
    have hle := usedBuckets_le (step s call).session
    rw [hfree, hused, if_neg Bool.false_ne_true, if_pos rfl] at htotal
    rw [hcnt, BitVec.toNat_add, hcounted, hone]
    omega
  · have htotal := usedBuckets_elsewhereSame helsewhere
    have hle := usedBuckets_le s.session
    rw [(find_some hfind).1, hfree, if_neg Bool.false_ne_true, if_pos rfl] at htotal
    rw [hcnt, BitVec.toNat_sub, hcounted, hone]
    omega

theorem distinct_step (s : SspSession) (call : Call) (h : Distinct s) (hfresh : Fresh s call) :
    Distinct (step s call) := by
  intro j k
  rcases effect_step s call with ⟨htable, -, -, -⟩ | ⟨i, hfree, hused, helsewhere, -, -, hissues⟩ |
    ⟨i, opHandle, hfind, hfree, helsewhere, -, -, -⟩
  · rw [bucket_of_same htable, bucket_of_same htable]
    exact h j k
  · have hnew : ∀ m, m ≠ i → (s.bucket m).used → (s.bucket m).handle ≠ ((step s call).bucket i).handle := by
      intro m hm husedm heq
      exact hfresh _ ((hissues _).mpr rfl) ⟨m, husedm, heq⟩
    intro hj hk hhnd
    rcases eq_or_ne j i with rfl | hji <;> rcases eq_or_ne k j with rfl | hkj
    · rfl
    · rw [helsewhere k hkj] at hk hhnd
      exact (hnew k hkj hk hhnd.symm).elim
    · rfl
    · rcases eq_or_ne k i with rfl | hki
      · rw [helsewhere j hji] at hj hhnd
        exact (hnew j hji hj hhnd).elim
      · rw [helsewhere j hji] at hj hhnd
        rw [helsewhere k hki] at hk hhnd
        exact h j k hj hk hhnd
  · intro hj hk hhnd
    have hne : ∀ m, ((step s call).bucket m).used → m ≠ i := by
      rintro m hm rfl
      rw [hfree] at hm
      cases hm
    have hji := hne j hj
    have hki := hne k hk
    rw [helsewhere j hji] at hj hhnd
    rw [helsewhere k hki] at hk hhnd
    exact h j k hj hk hhnd

theorem changesOwnBucket (s : SspSession) (call : Call) : ChangesOwnBucket s call := by
  intro j hchanged
  rcases effect_step s call with ⟨htable, -, -, -⟩ | ⟨i, hfree, -, helsewhere, -, hcall, -⟩ |
    ⟨i, opHandle, hfind, -, helsewhere, -, hcall, -⟩
  · exact (hchanged (bucket_of_same htable j)).elim
  · rw [hcall]
    rcases eq_or_ne j i with rfl | hji
    · exact hfree
    · exact (hchanged (helsewhere j hji)).elim
  · rw [hcall]
    rcases eq_or_ne j i with rfl | hji
    · exact find_some hfind
    · exact (hchanged (helsewhere j hji)).elim

theorem holds_step (call : Call) (h : Distinct s) (opHandle : U64) : Holds (step s call) opHandle ↔
      Issues s opHandle call ∨ (Holds s opHandle ∧ ¬Releases s opHandle call) := by
  rcases effect_step s call with ⟨htable, -, hissues, hreleases⟩ | ⟨i, hfree, hused, helsewhere, -, hcall, hissues⟩ |
    ⟨i, released, hfind, hfree, helsewhere, -, hcall, hreleases⟩
  · have hsame : Holds (step s call) opHandle ↔ Holds s opHandle := exists_congr fun i => by rw [bucket_of_same htable]
    rw [hsame]
    constructor
    · intro hholds
      refine .inr ⟨hholds, fun hrel => ?_⟩
      have hfound := (find_isSome_iff s opHandle).mpr hholds
      rw [hreleases opHandle hrel] at hfound
      cases hfound
    · rintro (hissued | ⟨hholds, -⟩)
      · exact (hissues opHandle hissued).elim
      · exact hholds
  · rw [hissues]
    constructor
    · rintro ⟨j, hj, hhnd⟩
      rcases eq_or_ne j i with rfl | hji
      · exact .inl hhnd
      · rw [helsewhere j hji] at hj hhnd
        refine .inr ⟨⟨j, hj, hhnd⟩, fun hrel => ?_⟩
        have hhas := handleOf_of_releases hrel
        rw [hcall] at hhas
        cases hhas
    · rintro (hhnd | ⟨⟨j, hj, hhnd⟩, -⟩)
      · exact ⟨i, hused, hhnd⟩
      · have hji : j ≠ i := by
          rintro rfl
          rw [hfree] at hj
          cases hj
        rw [← helsewhere j hji] at hj hhnd
        exact ⟨j, hj, hhnd⟩
  · have hnone : ¬Issues s opHandle call := by
      intro hissued
      cases call with
      | begin args invocation => cases hcall
      | updateAad _ args invocation => exact hissued
      | update _ args invocations => exact hissued
      | finish _ args invocations => exact hissued
      | abort _ invocation => exact hissued
    constructor
    · rintro ⟨j, hj, hhnd⟩
      have hji : j ≠ i := by
        rintro rfl
        rw [hfree] at hj
        cases hj
      rw [helsewhere j hji] at hj hhnd
      refine .inr ⟨⟨j, hj, hhnd⟩, fun hrel => hji ?_⟩
      obtain ⟨husedi, hhandlei⟩ := find_some hfind
      have hhas := handleOf_of_releases hrel
      rw [hcall] at hhas
      exact h j i hj husedi (hhnd.trans ((Option.some.inj hhas).symm.trans hhandlei.symm))
    · rintro (hissued | ⟨⟨j, hj, hhnd⟩, hkept⟩)
      · exact (hnone hissued).elim
      · have hji : j ≠ i := by
          rintro rfl
          have hsame : opHandle = released := hhnd.symm.trans (find_some hfind).2
          exact hkept (hsame ▸ hreleases)
        rw [← helsewhere j hji] at hj hhnd
        exact ⟨j, hj, hhnd⟩

def FoundUntilReleased (Gone : SspSession → List Call → Prop) (opHandle : U64) : SspSession → List Call → Prop
  | s, [] => (findSspOperationHandle s.session opHandle).isSome
  | s, call :: calls =>
    (findSspOperationHandle s.session opHandle).isSome ∧
    (Releases s opHandle call → Gone (step s call) calls) ∧
    (¬Releases s opHandle call → FoundUntilReleased Gone opHandle (step s call) calls)

def NeverFound (opHandle : U64) : SspSession → List Call → Prop :=
  Throughout step fun s => findSspOperationHandle s.session opHandle = none

def NotFoundUntilIssued (opHandle : U64) : SspSession → List Call → Prop
  | s, [] => findSspOperationHandle s.session opHandle = none
  | s, call :: calls =>
    findSspOperationHandle s.session opHandle = none ∧
    (¬Issues s opHandle call → NotFoundUntilIssued opHandle (step s call) calls)

theorem find_none_iff (s : SspSession) (opHandle : U64) :
    findSspOperationHandle s.session opHandle = none ↔ ¬Holds s opHandle := by
  rw [← find_isSome_iff, Option.not_isSome_iff_eq_none]

variable {calls : List Call}

theorem notFoundUntilIssued (hdist : Distinct s)
    (hfresh : EachStep step Fresh s calls) (h : ¬Holds s opHandle) : NotFoundUntilIssued opHandle s calls := by
  induction calls generalizing s with
  | nil => exact (find_none_iff s opHandle).mpr h
  | cons call calls ih =>
    refine ⟨(find_none_iff s opHandle).mpr h, fun hnot => ?_⟩
    apply ih (distinct_step s call hdist hfresh.1) hfresh.2
    rw [holds_step call hdist]
    rintro (hissued | ⟨hholds, -⟩)
    · exact hnot hissued
    · exact h hholds

theorem not_issues_of_releases {opHandle h : U64} (hreleases : Releases s opHandle call) : ¬Issues s h call := by
  cases call with
  | begin args invocation => exact hreleases.elim
  | updateAad _ args invocation => exact id
  | update _ args invocations => exact id
  | finish _ args invocations => exact id
  | abort _ invocation => exact id

theorem foundUntilReleased (hdist : Distinct s) (hfresh : EachStep step Fresh s calls) (h : Holds s opHandle) :
    FoundUntilReleased (NotFoundUntilIssued opHandle) opHandle s calls := by
  induction calls generalizing s with
  | nil => exact (find_isSome_iff s opHandle).mpr h
  | cons call calls ih =>
    have hnext := distinct_step s call hdist hfresh.1
    refine ⟨(find_isSome_iff s opHandle).mpr h, fun hrel => ?_, fun hkept => ?_⟩
    · apply notFoundUntilIssued hnext hfresh.2
      rw [holds_step call hdist]
      rintro (hissued | ⟨-, hkept⟩)
      · exact not_issues_of_releases hrel hissued
      · exact hkept hrel
    · apply ih hnext hfresh.2
      rw [holds_step call hdist]
      exact .inr ⟨h, hkept⟩

theorem eachStep_of_forall {C : SspSession → Call → Prop} (h : ∀ s call, C s call) (s : SspSession)
    (calls : List Call) : EachStep step C s calls := by
  induction calls generalizing s with
  | nil => trivial
  | cons call calls ih => exact ⟨h s call, ih _⟩

variable (algorithms : Fin 4 → U32) (refcount : Int)

theorem counted_sspOpen : Counted (sspOpen algorithms refcount) := by
  refine ⟨?_, usedBuckets_le _⟩
  have hnone : usedBuckets (Operation.sspOpen algorithms refcount) = 0 := by
    rw [usedBuckets, Vector.countP_eq_zero]
    intro operation hop
    obtain ⟨i, rfl⟩ := Vector.mem_ofFn.mp hop
    exact Bool.false_ne_true
  exact hnone.symm

theorem not_used_sspOpen (i : Fin 4) : ((sspOpen algorithms refcount).bucket i).used = false := by
  have hget := Vector.getElem_ofFn i.isLt (f := fun i => (⟨0, algorithms i, 0, false⟩ : SspOperation))
  exact congrArg SspOperation.used hget

theorem distinct_sspOpen : Distinct (sspOpen algorithms refcount) := by
  intro i j hi
  rw [not_used_sspOpen] at hi
  cases hi

def Lifetimes (Gone : U64 → SspSession → List Call → Prop) : SspSession → List Call → Prop
  | _, [] => True
  | s, call :: calls =>
    (∀ opHandle, Issues s opHandle call → FoundUntilReleased (Gone opHandle) opHandle (step s call) calls) ∧
    Lifetimes Gone (step s call) calls

theorem lifetimes (hdist : Distinct s) (hfresh : EachStep step Fresh s calls) :
    Lifetimes NotFoundUntilIssued s calls := by
  induction calls generalizing s with
  | nil => trivial
  | cons call calls ih =>
    have hnext := distinct_step s call hdist hfresh.1
    refine ⟨fun opHandle hissued => ?_, ih hnext hfresh.2⟩
    apply foundUntilReleased hnext hfresh.2
    rw [holds_step call hdist]
    exact .inl hissued

/-- Over every run in which no handle in use is issued once more. -/
theorem table_consistent (algorithms : Fin 4 → U32) (refcount : Int) (calls : List Call)
    (hfresh : EachStep step Fresh (sspOpen algorithms refcount) calls) :
    Throughout step Counted (sspOpen algorithms refcount) calls ∧
    EachStep step ChangesOwnBucket (sspOpen algorithms refcount) calls ∧
    Lifetimes NotFoundUntilIssued (sspOpen algorithms refcount) calls := by
  refine ⟨?_, eachStep_of_forall changesOwnBucket _ calls, lifetimes (distinct_sspOpen algorithms refcount) hfresh⟩
  exact throughout_of_eachStep (fun s call h _ => counted_step s call h) (counted_sspOpen algorithms refcount) hfresh

variable {invocation : Invocation}

theorem sspExchange_reply {request : Except KmErrorCode Unit} {s t : Session} {reply : Reply}
    (h : sspExchange request (some invocation) s = (.ok reply, t)) : reply = invocation.reply := by
  rw [sspExchange.eq_def] at h
  cases request with
  | error e => cases h
  | ok =>
    dsimp only at h
    split_ifs at h with hsuccess
    · cases hcheck : checkReply invocation.reply with
      | error e =>
        rw [hcheck] at h
        cases h
      | ok =>
        rw [hcheck] at h
        cases h
        rfl
    · cases h

variable {args : BeginArgs}

theorem opHandle_of_issues
    (h : Issues s opHandle (.begin args invocation)) : invocation.reply.begin.opHandle = opHandle := by
  obtain ⟨outParams, hbegin⟩ := h
  rw [sspBegin] at hbegin
  rcases hexch : sspExchange (beginRequest args) (some invocation) s.session.enable with ⟨e | reply, t⟩
  · rw [hexch] at hbegin
    cases hbegin
  · rw [hexch] at hbegin
    obtain rfl := sspExchange_reply hexch
    dsimp only at hbegin
    rcases hout : beginOutParams args invocation.reply.begin with e | out
    · rw [hout] at hbegin
      cases hbegin
    · rw [hout] at hbegin
      dsimp only at hbegin
      cases halloc : allocSspOperationBucket t with
      | none =>
        rw [halloc] at hbegin
        cases hbegin
      | some i =>
        rw [halloc] at hbegin
        cases hbegin
        rfl

theorem fresh_begin (h : findSspOperationHandle s.session invocation.reply.begin.opHandle = none) :
    Fresh s (.begin args invocation) := by
  intro opHandle hissued
  rw [← opHandle_of_issues hissued, ← find_none_iff]
  exact h

def sampleAbort : Call := .abort 7 (sampleReply cmdSspAbort 0)

theorem table_consistent_sample :
    Throughout step Counted (sspOpen (fun _ => 0) 0) [sampleBegin, sampleAbort, sampleBegin] ∧
    EachStep step ChangesOwnBucket (sspOpen (fun _ => 0) 0) [sampleBegin, sampleAbort, sampleBegin] ∧
    Lifetimes NotFoundUntilIssued (sspOpen (fun _ => 0) 0) [sampleBegin, sampleAbort, sampleBegin] := by
  refine table_consistent (fun _ => 0) 0 _ ⟨fresh_begin ?_, fun _ h => h.elim, fresh_begin ?_, trivial⟩
  · decide
  · decide

/-- The trusted application may use the handle of an aborted operation for the next one. -/
theorem reissued_handle_found : EachStep step Fresh (sspOpen (fun _ => 0) 0) [sampleBegin, sampleAbort, sampleBegin] ∧
    ¬Lifetimes NeverFound (sspOpen (fun _ => 0) 0) [sampleBegin, sampleAbort, sampleBegin] := by
  refine ⟨⟨fresh_begin ?_, fun _ h => h.elim, fresh_begin ?_, trivial⟩, ?_⟩
  · decide
  · decide
  · rintro ⟨hlifetime, -⟩
    obtain ⟨-, hgone, -⟩ := hlifetime 7 ⟨[], by rfl⟩
    have hlast := (hgone rfl).last
    revert hlast
    decide

end ExynosHal.Strongbox.OperationTable
