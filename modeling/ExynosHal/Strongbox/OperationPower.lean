import ExynosHal.Library.Run
import ExynosHal.Library.Tally
import ExynosHal.Strongbox.Operation

/-! # The power count follows the live operations

What a call adds to the table it adds to the count, and what it frees it subtracts.
-/

namespace ExynosHal.Strongbox.OperationPower
open Library Library.Run Hwctl Params Serialization Operation

def usedBuckets (s : Session) : Nat := s.sspOperation.countP fun operation => operation.used

def Balanced (s : Session) : Prop := s.refcount = usedBuckets s

theorem usedBuckets_set (s : Session) (i : Fin 4) (operation : SspOperation) :
    usedBuckets (setSspOperation s i operation) + (if (s.sspOperation.get i).used then 1 else 0) =
      usedBuckets s + if operation.used then 1 else 0 :=
  Tally.countP_set_add SspOperation.used s.sspOperation i operation

variable {s : Session} {i : Fin 4}

theorem used_of_find {opHandle : U64}
    (h : findSspOperationHandle s opHandle = some i) : (s.sspOperation.get i).used := by
  have hfound := List.find?_some h
  rw [Bool.and_eq_true] at hfound
  exact hfound.1

theorem not_used_of_alloc (h : allocSspOperationBucket s = some i) : (s.sspOperation.get i).used = false := by
  have hfound := List.find?_some h
  rwa [Bool.not_eq_true'] at hfound

theorem usedBuckets_free (h : (s.sspOperation.get i).used) :
    usedBuckets (freeSspOperationBucket s i) + 1 = usedBuckets s := by
  have hset := usedBuckets_set s i { s.sspOperation.get i with used := false, finalLen := 0, handle := 0 }
  rw [if_pos h] at hset
  rw [freeSspOperationBucket, if_pos h]
  exact hset

theorem free_refcount (s : Session) (i : Fin 4) : (freeSspOperationBucket s i).refcount = s.refcount := by
  rw [freeSspOperationBucket]
  split_ifs <;> rfl

theorem enable_disable (s : Session) (h : 0 ≤ s.refcount) : s.enable.disable = s := by
  rw [Session.enable, Session.disable, disable_enable h]

theorem eq_roundTrip (h : 0 ≤ s.refcount) (t : Session) (ht : t = s) : t.enable.disable = s := ht ▸ enable_disable s h

section

/-! What survives a round trip of the driver survives a call. -/

variable {P : Session → Prop} (hP : ∀ t, P t → P t.enable.disable)
include hP

theorem sspExchange_keeps (request : Except KmErrorCode Unit) (invocation : Option Invocation) (hs : P s) :
    P (sspExchange request invocation s).2 := by
  rw [sspExchange.eq_def]
  cases request with
  | error e => exact hs
  | ok =>
    cases invocation with
    | none => exact hP s hs
    | some invocation =>
      dsimp only
      split_ifs
      · cases checkReply invocation.reply <;> exact hP s hs
      · exact hP s hs

theorem subsampleInputData_keeps (args : SubsampleArgs) (invocations : List Invocation) (st : SubsampleState)
    (hs : P s) : P (subsampleInputData args invocations st s).2 := by
  induction invocations generalizing st s with
  | nil =>
    rw [subsampleInputData]
    split_ifs
    · exact sspExchange_keeps hP _ none hs
    · exact hs
  | cons invocation invocations ih =>
    have hkept := sspExchange_keeps hP (subsampleRequest args st) (some invocation) hs
    rw [subsampleInputData]
    split
    · rcases hexch : sspExchange (subsampleRequest args st) (some invocation) s with ⟨e | reply, t⟩
      · rw [hexch] at hkept
        exact hkept
      · rw [hexch] at hkept
        exact ih _ hkept
    · exact hs

theorem finishBody_keeps (args : FinishArgs) (operation : SspOperation) (invocations : List Invocation) (hs : P s) :
    P (finishBody args operation invocations s).2 := by
  rw [finishBody]
  have hkept := subsampleInputData_keeps hP
    ⟨args.authToken, args.timestampToken, args.signatureLen, args.confirmationTokenLen, true⟩ invocations
    ⟨args.inputLen.bind inputCursor, finishOutput args operation, true, 0, 0⟩ hs
  generalize subsampleInputData _ invocations _ s = result at hkept
  obtain ⟨e | st, t⟩ := result
  · exact hkept
  · dsimp only
    split_ifs <;> exact hkept

end

def Clean {α : Type} (result : Except KmErrorCode α) : Prop := result ≠ .error kmErrorInvalidOperationHandle

variable {α : Type}

theorem clean_ok (a : α) : Clean (.ok a) := fun h => by cases h

variable {e : KmErrorCode}

theorem clean_error (h : e ≠ kmErrorInvalidOperationHandle) :
    Clean (.error e : Except KmErrorCode α) := fun heq => h (Except.error.inj heq)

theorem clean_bind {α β : Type} {first : Except KmErrorCode α} {next : α → Except KmErrorCode β} (h : Clean first)
    (hnext : ∀ a, Clean (next a)) : Clean (first >>= next) := by
  cases first with
  | error e => exact clean_error fun heq => h (congrArg Except.error heq)
  | ok a => exact hnext a

theorem clean_expect (h : e ≠ kmErrorInvalidOperationHandle) (condition : Bool) : Clean (expect e condition) := by
  rw [expect]
  split_ifs
  · exact clean_ok ()
  · exact clean_error h

theorem clean_invalidArgument (condition : Bool) : Clean (expect kmErrorInvalidArgument condition) :=
  clean_expect (by decide) condition

theorem clean_checkToken (token : Token) : Clean (checkToken token) := by
  cases token with
  | none => exact clean_ok ()
  | some macLength => exact clean_invalidArgument _

theorem kmErrorCode_ne (e : KmError) : kmErrorCode e ≠ kmErrorInvalidOperationHandle := by
  cases e <;> decide

theorem clean_serializeInParams (params : List KeyParam) : Clean (serializeInParams params) := by
  rw [serializeInParams]
  split
  · exact clean_error (kmErrorCode_ne _)
  · exact clean_ok _

theorem clean_updateAadRequest (args : UpdateAadArgs) (operation : SspOperation) :
    Clean (updateAadRequest args operation) := by
  refine clean_bind (clean_serializeInParams _) fun _ => ?_
  refine clean_bind (clean_expect (by decide) _) fun _ => ?_
  refine clean_bind (clean_checkToken _) fun _ => ?_
  exact clean_bind (clean_checkToken _) fun _ => clean_invalidArgument _

variable (args : SubsampleArgs)

theorem clean_subsampleRequest (st : SubsampleState) : Clean (subsampleRequest args st) := by
  refine clean_bind (clean_checkToken _) fun _ => ?_
  refine clean_bind (clean_checkToken _) fun _ => ?_
  dsimp only
  split_ifs
  · refine clean_bind (clean_invalidArgument _) fun _ => ?_
    refine clean_bind (clean_invalidArgument _) fun _ => ?_
    exact clean_bind (clean_invalidArgument _) fun _ => clean_invalidArgument _
  · refine clean_bind (clean_invalidArgument _) fun _ => ?_
    exact clean_bind (clean_invalidArgument _) fun _ => clean_ok ()

theorem clean_validateSubsampleReply (reply : SubsampleReply) : Clean (validateSubsampleReply reply) := by
  refine clean_bind (clean_invalidArgument _) fun _ => ?_
  exact clean_bind (clean_invalidArgument _) fun _ => clean_invalidArgument _

theorem clean_validateIpcRespMessage (reply : Reply) : Clean (validateIpcRespMessage reply) := by
  rw [validateIpcRespMessage]
  split_ifs
  · exact clean_invalidArgument _
  · exact clean_validateSubsampleReply _
  · exact clean_validateSubsampleReply _
  · exact clean_ok ()
  · exact clean_invalidArgument _

def KnowsHandle (invocation : Invocation) : Prop :=
  invocation.success → invocation.reply.kmErrcode ≠ kmErrorInvalidOperationHandle

theorem clean_sspExchange {request : Except KmErrorCode Unit} (hreq : Clean request) {invocation : Option Invocation}
    (hknows : ∀ inv ∈ invocation, KnowsHandle inv) (s : Session) : Clean (sspExchange request invocation s).1 := by
  rw [sspExchange.eq_def]
  cases request with
  | error e => exact clean_error fun heq => hreq (congrArg Except.error heq)
  | ok =>
    cases invocation with
    | none => exact clean_error (by decide)
    | some invocation =>
      have hknows := hknows invocation rfl
      dsimp only
      split_ifs with hsuccess
      · have hreply : Clean (checkReply invocation.reply) := by
          rw [checkReply]
          split_ifs
          · exact clean_error (hknows hsuccess)
          · exact clean_validateIpcRespMessage _
        rcases hcheck : checkReply invocation.reply with e | _
        · exact clean_error fun heq => hreply (hcheck.trans (congrArg Except.error heq))
        · exact clean_ok _
      · exact clean_error (by decide)

variable {invocations : List Invocation}

theorem clean_subsampleInputData (hknows : ∀ inv ∈ invocations, KnowsHandle inv) (st : SubsampleState) (s : Session) :
    Clean (subsampleInputData args invocations st s).1 := by
  induction invocations generalizing st s with
  | nil =>
    have hclean : Clean (sspExchange (subsampleRequest args st) none s).1 :=
      clean_sspExchange (clean_subsampleRequest args st) (fun _ hinv => by cases hinv) s
    rw [subsampleInputData]
    split
    · rcases hexch : sspExchange (subsampleRequest args st) none s with ⟨e | reply, t⟩
      · rw [hexch] at hclean
        exact clean_error fun heq => hclean (congrArg Except.error heq)
      · exact clean_ok _
    · exact clean_ok _
  | cons invocation invocations ih =>
    obtain ⟨hinvocation, hrest⟩ := List.forall_mem_cons.mp hknows
    have hclean := clean_sspExchange (clean_subsampleRequest args st)
      (fun inv hinv => Option.some.inj hinv ▸ hinvocation) s
    rw [subsampleInputData]
    split
    · rcases hexch : sspExchange (subsampleRequest args st) (some invocation) s with ⟨e | reply, t⟩
      · rw [hexch] at hclean
        exact clean_error fun heq => hclean (congrArg Except.error heq)
      · exact ih hrest _ _
    · exact clean_ok _

theorem Balanced.nonneg (h : Balanced s) : 0 ≤ s.refcount := by
  rw [h]
  exact Int.natCast_nonneg _

theorem usedBuckets_pos (h : (s.sspOperation.get i).used) : 0 < usedBuckets s :=
  Vector.countP_pos_iff.mpr ⟨_, Vector.getElem_mem i.isLt, h⟩

theorem balanced_release (h : Balanced s) (hused : (s.sspOperation.get i).used) :
    Balanced (freeSspOperationBucket s.disable i) := by
  have hpower : s.refcount = usedBuckets s := h
  have hpos := usedBuckets_pos hused
  have hfree : usedBuckets (freeSspOperationBucket s.disable i) + 1 = usedBuckets s.disable := usedBuckets_free hused
  change _ = usedBuckets s at hfree
  rw [Balanced, free_refcount]
  change sspHwctlDisable s.refcount = _
  rw [disable_of_pos (by omega)]
  omega

theorem balanced_error (h : Balanced s)
    (hused : (s.sspOperation.get i).used) (hclean : Clean (.error e : Except KmErrorCode α)) :
    Balanced (freeSspOperationBucket (disableUnlessInvalidHandle e s) i) := by
  have hne : e ≠ kmErrorInvalidOperationHandle := fun heq => hclean (congrArg Except.error heq)
  rw [disableUnlessInvalidHandle, if_pos hne]
  exact balanced_release h hused

variable {result : Except KmErrorCode α × Session}

theorem balanced_endUpdate
    (h : Balanced s) (hused : (s.sspOperation.get i).used) (hstate : result.2 = s) (hclean : Clean result.1) :
    Balanced (endUpdate i result).2 := by
  obtain ⟨e | out, t⟩ := result
  · cases hstate
    exact balanced_error h hused hclean
  · cases hstate
    exact h

theorem balanced_endOperation
    (h : Balanced s) (hused : (s.sspOperation.get i).used) (hstate : result.2 = s) (hclean : Clean result.1) :
    Balanced (endOperation i result).2 := by
  obtain ⟨e | out, t⟩ := result
  · cases hstate
    exact balanced_error h hused hclean
  · cases hstate
    exact balanced_release h hused

theorem balanced_sspBegin (args : BeginArgs) (invocation : Invocation) (h : Balanced s) :
    Balanced (sspBegin args invocation s).2 := by
  have henabled : 0 ≤ s.enable.refcount := Int.le_trans h.nonneg (Int.le_add_one (Int.le_refl _))
  have hback : Balanced s.enable.disable := by rwa [enable_disable s h.nonneg]
  have hstate := sspExchange_keeps (eq_roundTrip henabled) (beginRequest args) (some invocation) rfl
  rw [sspBegin, beginBody]
  rcases hexch : sspExchange (beginRequest args) (some invocation) s.enable with ⟨e | reply, t⟩
  all_goals
    rw [hexch] at hstate
    obtain rfl : t = s.enable := hstate
    dsimp only
  · exact hback
  · cases beginOutParams args reply.begin with
    | error e => exact hback
    | ok outParams =>
      dsimp only
      cases halloc : allocSspOperationBucket s.enable with
      | none => exact hback
      | some i =>
        have hfree : (s.enable.sspOperation.get i).used = false := not_used_of_alloc halloc
        have hset := usedBuckets_set s.enable i
          ⟨reply.begin.opHandle, reply.begin.algorithm, reply.begin.finalLen.toNat, true⟩
        rw [hfree, if_neg (by decide), if_pos rfl, Nat.add_zero] at hset
        change s.refcount + 1 = ((usedBuckets (setSspOperation s.enable i _) : Nat) : Int)
        rw [hset]
        exact congrArg (· + 1) h

theorem clean_finishBody (args : FinishArgs) (operation : SspOperation)
    (hknows : ∀ inv ∈ invocations, KnowsHandle inv) (s : Session) :
    Clean (finishBody args operation invocations s).1 := by
  rw [finishBody]
  have hclean := clean_subsampleInputData
    ⟨args.authToken, args.timestampToken, args.signatureLen, args.confirmationTokenLen, true⟩ hknows
    ⟨args.inputLen.bind inputCursor, finishOutput args operation, true, 0, 0⟩ s
  generalize subsampleInputData _ invocations _ s = result at hclean
  obtain ⟨e | st, t⟩ := result
  · exact clean_error fun heq => hclean (congrArg Except.error heq)
  · dsimp only
    split_ifs
    · exact clean_ok _
    · exact clean_error (by decide)

def Harmless (s : Session) : Call → Prop
  | .begin _ _ => True
  | .updateAad opHandle _ invocation => (findSspOperationHandle s opHandle).isSome → KnowsHandle invocation
  | .update opHandle _ invocations =>
    (findSspOperationHandle s opHandle).isSome → ∀ inv ∈ invocations, KnowsHandle inv
  | .finish opHandle _ invocations =>
    (findSspOperationHandle s opHandle).isSome → ∀ inv ∈ invocations, KnowsHandle inv
  | .abort opHandle invocation => (findSspOperationHandle s opHandle).isSome → KnowsHandle invocation

theorem balanced_step (s : Session) (call : Call) (h : Balanced s) (hharmless : Harmless s call) :
    Balanced (step s call) := by
  have hnonneg := h.nonneg
  cases call with
  | begin args invocation => exact balanced_sspBegin args invocation h
  | updateAad opHandle args invocation =>
    rw [step, sspUpdateAad]
    cases hfind : findSspOperationHandle s opHandle with
    | none => exact h
    | some i =>
      have hknows := hharmless (Option.isSome_iff_exists.mpr ⟨i, hfind⟩)
      exact balanced_endUpdate h (used_of_find hfind) (sspExchange_keeps (eq_roundTrip hnonneg) _ _ rfl)
        (clean_sspExchange (clean_updateAadRequest _ _) (fun inv hinv => Option.some.inj hinv ▸ hknows) s)
  | update opHandle args invocations =>
    rw [step, sspUpdate]
    cases hfind : findSspOperationHandle s opHandle with
    | none => exact h
    | some i =>
      have hknows := hharmless (Option.isSome_iff_exists.mpr ⟨i, hfind⟩)
      exact balanced_endUpdate h (used_of_find hfind) (subsampleInputData_keeps (eq_roundTrip hnonneg) _ _ _ rfl)
        (clean_subsampleInputData _ hknows _ s)
  | finish opHandle args invocations =>
    rw [step, sspFinish]
    cases hfind : findSspOperationHandle s opHandle with
    | none => exact h
    | some i =>
      have hknows := hharmless (Option.isSome_iff_exists.mpr ⟨i, hfind⟩)
      exact balanced_endOperation h (used_of_find hfind) (finishBody_keeps (eq_roundTrip hnonneg) _ _ _ rfl)
        (clean_finishBody _ _ hknows s)
  | abort opHandle invocation =>
    rw [step, sspAbort]
    cases hfind : findSspOperationHandle s opHandle with
    | none => exact h
    | some i =>
      have hknows := hharmless (Option.isSome_iff_exists.mpr ⟨i, hfind⟩)
      exact balanced_endOperation h (used_of_find hfind) (sspExchange_keeps (eq_roundTrip hnonneg) _ _ rfl)
        (clean_sspExchange (clean_ok ()) (fun inv hinv => Option.some.inj hinv ▸ hknows) s)

theorem balanced_sspOpen (algorithms : Fin 4 → U32) : Balanced (sspOpen algorithms 0) := by
  have hnone : usedBuckets (sspOpen algorithms 0) = 0 := by
    rw [usedBuckets, Vector.countP_eq_zero]
    intro operation hop
    obtain ⟨i, rfl⟩ := Vector.mem_ofFn.mp hop
    exact Bool.false_ne_true
  rw [Balanced, hnone]
  rfl

/-- After every call of a run without such an answer, the count is the number of used buckets. -/
theorem balanced_run (algorithms : Fin 4 → U32) (calls : List Call)
    (h : EachStep step Harmless (sspOpen algorithms 0) calls) :
    Throughout step Balanced (sspOpen algorithms 0) calls :=
  throughout_of_eachStep balanced_step (balanced_sspOpen algorithms) h

def sampleReply (commandId : U32) (kmErrcode : Int) : Invocation :=
  ⟨true, ⟨commandId, kmErrcode, ⟨0, [], 7, kmAlgorithmAes, 0⟩, ⟨0, 0, 0⟩, ⟨0, 0, 0⟩, true⟩⟩

def sampleBegin : Call := .begin ⟨16, [], none, false⟩ (sampleReply cmdSspBegin 0)

theorem balanced_run_begin_abort :
    Throughout step Balanced (sspOpen (fun _ => 0) 0) [sampleBegin, .abort 7 (sampleReply cmdSspAbort 0)] := by
  refine balanced_run (fun _ => 0) _ ⟨trivial, ?_, trivial⟩
  intro _ _
  decide

theorem unknownHandle_unbalanced : ¬Throughout step Balanced (sspOpen (fun _ => 0) 0)
      [sampleBegin, .abort 7 (sampleReply cmdSspAbort kmErrorInvalidOperationHandle)] := by
  rintro ⟨-, -, hbalanced⟩
  rw [Throughout, Balanced] at hbalanced
  revert hbalanced
  decide

end ExynosHal.Strongbox.OperationPower
