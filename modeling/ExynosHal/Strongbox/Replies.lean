import ExynosHal.Strongbox.Requests

/-! # Replies and the buffers of the caller

The calls that copy out of a reply.
-/

namespace ExynosHal.Strongbox.Replies
open Library Library.BitString Params AuthorizationList Operation Ipc KeyRequests Requests
open Procedure (bind_eq_ok_iff leads_expect leads_get leads_modify leads_ofExcept leads_ofOption leads_of_forall)
open BitVec (ofNat)

inductive Receiver where
  | generateKey (params : List KeyParam) (wantsCharacteristics : Bool)
  | importKey (args : ImportArgs)
  | importWrappedkey (args : ImportWrappedArgs)
  | updateSubsample (tokens : Tokens) (input : List Byte) (outputLen : U32)
  | finishSubsample (tokens : Tokens) (input : List Byte) (outputLen : U32)
      (signature confirmationToken : Option (List Byte))

namespace Receiver

def command : Receiver → Command
  | generateKey _ _ => .generateKey
  | importKey _ => .importKey
  | importWrappedkey _ => .importWrappedKey
  | updateSubsample _ _ _ => .update
  | finishSubsample _ _ _ _ _ => .finish

def build : Receiver → Builder Nat
  | generateKey params wantsCharacteristics => do
    let keyMaterialSize ← sspGenerateKey params wantsCharacteristics
    pure keyMaterialSize.toNat
  | importKey args => do
    let key ← sspImportKey args
    pure key.keyMaterialSize.toNat
  | importWrappedkey args => do
    let keyMaterialSize ← sspImportWrappedkey args
    pure keyMaterialSize.toNat
  | updateSubsample tokens input outputLen => do
    Requests.updateSubsample tokens input outputLen
    pure outputLen.toNat
  | finishSubsample tokens input outputLen signature confirmationToken => do
    Requests.finishSubsample tokens input outputLen signature confirmationToken
    pure outputLen.toNat

def copied (reply : Message) : Receiver → Nat
  | generateKey _ _ => (reply.len .generateKeyblob).toNat
  | importKey _ => (reply.len .importKeyblob).toNat
  | importWrappedkey _ => (reply.len .wrappedKeyblob).toNat
  | updateSubsample _ _ outputLen => if 0 < outputLen.toNat then (reply.len .updateOutputResult).toNat else 0
  | finishSubsample _ _ outputLen _ _ => if 0 < outputLen.toNat then (reply.len .finishOutputResult).toNat else 0

def receive (call : Receiver) (reply : Message) : Except KmErrorCode Nat := do
  checkReply reply
  pure (call.copied reply)

def offered : Receiver → Option U32
  | updateSubsample _ _ outputLen => some outputLen
  | finishSubsample _ _ outputLen _ _ => some outputLen
  | _ => none

end Receiver

variable {algorithm keysize : U32}

theorem checkSupportedKeySize_le (h : checkSupportedKeySize algorithm keysize) : keysize.toNat ≤ 2048 := by
  rw [checkSupportedKeySize] at h
  split_ifs at h with hrsa hec haes hhmac hdes
  · rw [of_decide_eq_true h]
    decide
  · rw [of_decide_eq_true h]
    decide
  · simp only [Bool.or_eq_true, decide_eq_true_eq] at h
    obtain (rfl | rfl) | rfl := h <;> decide
  · simp only [Bool.and_eq_true, decide_eq_true_eq] at h
    exact h.1.2.trans (by decide)
  · rw [of_decide_eq_true h]
    decide

theorem toNat_add_le (a b : U32) : (a + b).toNat ≤ a.toNat + b.toNat := by
  rw [BitVec.toNat_add]
  exact Nat.mod_le _ _

theorem toNat_mul_le (a b : U32) : (a * b).toNat ≤ a.toNat * b.toNat := by
  rw [BitVec.toNat_mul]
  exact Nat.mod_le _ _

theorem sspKeyDataSizeMax_le (h : keysize.toNat ≤ 2048) : (sspKeyDataSizeMax algorithm keysize).toNat ≤ 2092 := by
  have hmax : (sspKeySizeMax algorithm).toNat ≤ 2048 := by
    rw [sspKeySizeMax]
    split_ifs <;> decide
  have hbits : (if 0 < keysize then keysize else sspKeySizeMax algorithm).toNat ≤ 2048 := by
    split_ifs
    · exact h
    · exact hmax
  rw [sspKeyDataSizeMax]
  generalize (if 0 < keysize then keysize else sspKeySizeMax algorithm) = bits at hbits
  have hkeylen : ((bits + 7) / 8).toNat ≤ 256 := by
    rw [BitVec.toNat_udiv, BitVec.toNat_add]
    show (bits.toNat + 7) % 2 ^ 32 / 8 ≤ 256
    omega
  generalize (bits + 7) / 8 = keylen at hkeylen
  have hrsa : (8 * keylen).toNat ≤ 8 * keylen.toNat := toNat_mul_le _ _
  have hec : (3 * keylen).toNat ≤ 3 * keylen.toNat := toNat_mul_le _ _
  show (if _ then _ else _ : U32).toNat ≤ 2092
  split_ifs
  · exact (toNat_add_le _ _).trans (show 8 + keylen.toNat ≤ 2092 by omega)
  · exact (toNat_add_le _ _).trans (show 44 + (8 * keylen).toNat ≤ 2092 by omega)
  · exact (toNat_add_le _ _).trans (show 24 + (3 * keylen).toNat ≤ 2092 by omega)
  · decide

theorem sspKeyBlobSizeMax_lt {algorithm keysize paramsSize : U32} (hkeysize : keysize.toNat ≤ 2048)
    (hparams : paramsSize.toNat ≤ keyCharacteristicsCommonMaxLen) :
    (sspKeyBlobSizeMax algorithm keysize paramsSize).toNat < keyblobSize := by
  have hdata := @sspKeyDataSizeMax_le algorithm keysize hkeysize
  rw [keyCharacteristicsCommonMaxLen] at hparams
  rw [sspKeyBlobSizeMax, sbExtraParamsMaxSize, keyblobSize]
  bv_omega

section
variable {d : Draft}

theorem keyMaterialSize_sspGenerateKey (params : List KeyParam) (wantsCharacteristics : Bool) :
    (sspGenerateKey params wantsCharacteristics).Leads d (fun size _ => size.toNat < keyblobSize) fun _ => True := by
  refine .bind (leads_ofExcept (fun algorithm _ => ?_) trivial)
  refine .bind (leads_ofExcept (fun keysizeBits _ => ?_) trivial)
  refine .bind (leads_expect (fun hsupp => ?_) trivial)
  refine .bind (leads_ofExcept (fun rsaExponent _ => ?_) trivial)
  refine .bind (leads_ofOption (fun (paramsBlobSize, paramsBlob) _ => ?_) trivial)
  refine .bind (leads_expect (fun _ => ?_) trivial)
  iterate 4 refine .bind (leads_modify ?_)
  refine .bind (.bind (leads_get (leads_ofExcept (fun _ hvalid => ?_) trivial)))
  have hparams : paramsBlobSize.toNat ≤ keyCharacteristicsCommonMaxLen :=
    (@validate_iff .generateKey _ rfl (by decide)).mp hvalid .generateKeyparams (by decide)
  refine sspKeyBlobSizeMax_lt ?_ hparams
  split_ifs
  · decide
  · exact checkSupportedKeySize_le hsupp

theorem keyMaterialSize_sspImportKey (args : ImportArgs) :
    (sspImportKey args).Leads d (fun key _ => key.keyMaterialSize.toNat < keyblobSize) fun _ => True := by
  refine .bind (leads_ofExcept (fun algorithm _ => ?_) trivial)
  refine .bind (leads_of_forall (fun (parsed, rsaExp) _ => ?_) fun _ => trivial)
  refine .bind (leads_expect (fun _ => ?_) trivial)
  refine .bind (leads_ofOption (fun parsedKeySize _ => ?_) trivial)
  refine .bind (leads_expect (fun hdes => ?_) trivial)
  refine .bind (leads_expect (fun hmatch => ?_) trivial)
  refine .bind (leads_expect (fun hsupp => ?_) trivial)
  refine .bind (leads_ofOption (fun (paramsBlobSize, paramsBlob) _ => ?_) trivial)
  refine .bind (leads_expect (fun hparams => ?_) trivial)
  iterate 5 refine .bind (leads_modify ?_)
  refine .bind (.bind (leads_get (leads_ofExcept (fun _ _ => ?_) trivial)))
  refine sspKeyBlobSizeMax_lt ?_ (of_decide_eq_true hparams)
  -- the size that was checked is that of the key, without the parity bits
  have hreal : (realKeySize algorithm parsedKeySize).toNat ≤ 2048 := by
    rw [Bool.or_eq_true, decide_eq_true_eq, decide_eq_true_eq] at hmatch
    rcases hmatch with hzero | hsame
    · rw [hzero, if_neg (not_not.mpr rfl)] at hsupp
      exact checkSupportedKeySize_le hsupp
    · rw [← hsame]
      split_ifs at hsupp with hzero
      · exact checkSupportedKeySize_le hsupp
      · rw [not_not.mp hzero]
        decide
  rw [realKeySize] at hreal
  split_ifs at hreal with halg
  · rw [Bool.or_eq_true, decide_eq_true_eq, decide_eq_true_eq] at hdes
    rw [hdes.resolve_left (not_not.mpr halg)]
    decide
  · exact hreal

theorem keyMaterialSize_sspImportWrappedkey (args : ImportWrappedArgs) :
    (sspImportWrappedkey args).Leads d (fun size _ => size.toNat < keyblobSize) fun _ => True := by
  refine .bind (leads_ofOption (fun fields _ => ?_) trivial)
  refine .bind (leads_ofOption (fun authList _ => ?_) trivial)
  refine .bind (leads_ofExcept (fun list _ => ?_) trivial)
  refine .bind (leads_expect (fun _ => ?_) trivial)
  refine .bind (leads_ofOption (fun (unwrappingSize, unwrappingBlob) _ => ?_) trivial)
  refine .bind (leads_expect (fun _ => ?_) trivial)
  iterate 12 refine .bind (leads_modify ?_)
  refine .bind (.bind (leads_get (leads_ofExcept (fun _ hvalid => ?_) trivial)))
  have hparams : (ofNat 32 list.keyParamsLen).toNat ≤ keyCharacteristicsCommonMaxLen :=
    (@validate_iff .importWrappedKey _ rfl (by decide)).mp hvalid .wrappedKeyparams (by decide)
  have hsize : (sspKeyBlobSizeMax kmAlgorithmRsa 2048 (ofNat 32 list.keyParamsLen)).toNat < keyblobSize :=
    sspKeyBlobSizeMax_lt (by decide) hparams
  iterate 7 refine .bind (leads_of_forall (fun _ _ => ?_) fun _ => trivial)
  exact hsize

end

section
variable {d : Draft} (tokens : Tokens)

theorem outputLen_updateSubsample (input : List Byte) (outputLen : U32) :
    (Requests.updateSubsample tokens input outputLen).Leads d (fun _ _ => outputLen.toNat ≤ outputSize) fun _ =>
      True := by
  iterate 4 refine .bind (leads_modify ?_)
  refine .bind ((leads_copyTokens tokens _).mono (fun _ d' hsame => ?_) fun _ _ => trivial)
  refine .bind (.bind (leads_get (leads_ofExcept (fun _ hvalid => ?_) trivial)))
  have hlen := (@validate_iff .update _ hsame.command (by decide)).mp hvalid .updateOutput (by decide)
  rw [hsame.len] at hlen
  exact leads_of_forall (fun _ _ => hlen) fun _ => trivial

theorem outputLen_finishSubsample (input : List Byte) (outputLen : U32)
    (signature confirmationToken : Option (List Byte)) :
    (Requests.finishSubsample tokens input outputLen signature confirmationToken).Leads d
      (fun _ _ => outputLen.toNat ≤ outputSize) fun _ => True := by
  iterate 7 refine .bind (leads_modify ?_)
  refine .bind ((leads_copyTokens tokens _).mono (fun _ d' hsame => ?_) fun _ _ => trivial)
  refine .bind (.bind (leads_get (leads_ofExcept (fun _ hvalid => ?_) trivial)))
  have hlen := (@validate_iff .finish _ hsame.command (by decide)).mp hvalid .finishOutput (by decide)
  rw [hsame.len] at hlen
  exact leads_of_forall (fun _ _ => hlen) fun _ => trivial

end

namespace Receiver

def len : Receiver → Len
  | generateKey _ _ => .generateKeyblob
  | importKey _ => .importKeyblob
  | importWrappedkey _ => .wrappedKeyblob
  | updateSubsample _ _ _ => .updateOutputResult
  | finishSubsample _ _ _ _ _ => .finishOutputResult

theorem limit_len (call : Receiver) : call.len.limit = if call.offered.isSome then outputSize else keyblobSize := by
  cases call <;> rfl

variable {call : Receiver} (reply : Message)

theorem copied_of_offered (h : call.offered ≠ some 0) : call.copied reply = (reply.len call.len).toNat := by
  cases call with
  | generateKey params wantsCharacteristics => rfl
  | importKey args => rfl
  | importWrappedkey args => rfl
  | updateSubsample tokens input outputLen | finishSubsample tokens input outputLen signature confirmationToken =>
    have hpos : 0 < outputLen.toNat := by
      refine Nat.pos_of_ne_zero fun hzero => h ?_
      exact congrArg some (BitVec.eq_of_toNat_eq hzero)
    exact if_pos hpos

theorem copied_of_nothing (h : call.offered = some 0) : call.copied reply = 0 := by
  cases call with
  | generateKey params wantsCharacteristics => cases h
  | importKey args => cases h
  | importWrappedkey args => cases h
  | updateSubsample tokens input outputLen | finishSubsample tokens input outputLen signature confirmationToken =>
    cases h
    rfl

theorem receive_eq_ok_iff {reply : Message} {copied : Nat} :
    call.receive reply = .ok copied ↔ checkReply reply = .ok () ∧ copied = call.copied reply := by
  rw [receive]
  cases checkReply reply <;> simp [Bind.bind, Except.bind, pure, Except.pure, eq_comm]

theorem size_of_sent {d : Draft} {size : Nat} (h : run call.build = some (d, .ok size)) : match call.offered with
    | none => size < call.len.limit
    | some outputLen => size = outputLen.toNat ∧ size ≤ call.len.limit := by
  cases call with
  | generateKey params wantsCharacteristics =>
    obtain ⟨keyMaterialSize, mid, hbuild, hend⟩ := bind_eq_ok_iff.mp h
    cases hend
    exact (keyMaterialSize_sspGenerateKey params wantsCharacteristics).of_eq_ok hbuild
  | importKey args =>
    obtain ⟨key, mid, hbuild, hend⟩ := bind_eq_ok_iff.mp h
    cases hend
    exact (keyMaterialSize_sspImportKey args).of_eq_ok hbuild
  | importWrappedkey args =>
    obtain ⟨keyMaterialSize, mid, hbuild, hend⟩ := bind_eq_ok_iff.mp h
    cases hend
    exact (keyMaterialSize_sspImportWrappedkey args).of_eq_ok hbuild
  | updateSubsample tokens input outputLen =>
    obtain ⟨_, mid, hbuild, hend⟩ := bind_eq_ok_iff.mp h
    cases hend
    exact ⟨rfl, (outputLen_updateSubsample tokens input outputLen).of_eq_ok hbuild⟩
  | finishSubsample tokens input outputLen signature confirmationToken =>
    obtain ⟨_, mid, hbuild, hend⟩ := bind_eq_ok_iff.mp h
    cases hend
    exact ⟨rfl, (outputLen_finishSubsample tokens input outputLen signature confirmationToken).of_eq_ok hbuild⟩

theorem limit_of_accepted {reply : Message} (hcmd : reply.command = some call.command)
    (h : checkReply reply = .ok ()) : (reply.len call.len).toNat ≤ call.len.limit := by
  have hvalid : validateIpcRespMessage reply = .ok () := by
    rw [Ipc.checkReply] at h
    split_ifs at h
    exact h
  rw [Ipc.validateIpcRespMessage, hcmd] at hvalid
  cases call with
  | generateKey params wantsCharacteristics => exact check_eq_ok_iff.mp hvalid .generateKeyblob (by decide)
  | importKey args => exact check_eq_ok_iff.mp hvalid .importKeyblob (by decide)
  | importWrappedkey args => exact check_eq_ok_iff.mp hvalid .wrappedKeyblob (by decide)
  | updateSubsample tokens input outputLen => exact check_eq_ok_iff.mp hvalid .updateOutputResult (by decide)
  | finishSubsample tokens input outputLen signature confirmationToken =>
    exact check_eq_ok_iff.mp hvalid .finishOutputResult (by decide)

end Receiver

def fullReply (command : Command) : Message := ⟨some command, 0, fun len => ofNat 32 len.limit, fun _ => []⟩

theorem checkReply_fullReply (command : Command) : checkReply (fullReply command) = .ok () := by
  cases command <;> rfl

def strayReply : Message := ⟨some .initIpc, 0, fun _ => BitVec.allOnes 32, fun _ => []⟩

variable {call : Receiver} {d : Draft} {size : Nat}

theorem size_lt_strayReply (h : run call.build = some (d, .ok size)) : size < (strayReply.len call.len).toNat := by
  have hlimit : call.len.limit < (BitVec.allOnes 32).toNat := by
    rw [Receiver.limit_len]
    split_ifs <;> decide
  have hsize := Receiver.size_of_sent h
  split at hsize
  · exact hsize.trans hlimit
  · exact hsize.2.trans_lt hlimit

theorem fitsUnderId_iff (h : run call.build = some (d, .ok size)) :
    (∀ reply copied, reply.command = some call.command → call.receive reply = .ok copied → copied ≤ size) ↔
      call.offered = some 0 ∨ call.offered = some (ofNat 32 outputSize) := by
  have hsize := Receiver.size_of_sent h
  constructor
  · intro hfits
    by_contra hnot
    obtain ⟨hsome, hpart⟩ := not_or.mp hnot
    have hcopied := hfits (fullReply call.command) _ rfl (Receiver.receive_eq_ok_iff.mpr ⟨checkReply_fullReply _, rfl⟩)
    rw [Receiver.copied_of_offered _ hsome] at hcopied
    have hfull : ((fullReply call.command).len call.len).toNat = call.len.limit := by
      show (ofNat 32 call.len.limit).toNat = call.len.limit
      rw [Receiver.limit_len]
      split_ifs <;> rfl
    rw [hfull] at hcopied
    cases hoffered : call.offered with
    | none =>
      rw [hoffered] at hsize
      exact absurd (hcopied.trans_lt hsize) (Nat.lt_irrefl _)
    | some outputLen =>
      rw [hoffered] at hsize
      rw [Receiver.limit_len, hoffered, Option.isSome_some, if_pos rfl] at hsize hcopied
      have hall : outputLen.toNat = outputSize := by omega
      exact hpart (hoffered.trans (congrArg some (BitVec.eq_of_toNat_eq hall)))
  · rintro hoffered reply copied hcmd hreceive
    obtain ⟨hacc, rfl⟩ := Receiver.receive_eq_ok_iff.mp hreceive
    rcases hoffered with hnothing | hall
    · rw [Receiver.copied_of_nothing _ hnothing]
      exact Nat.zero_le _
    · rw [hall] at hsize
      have hlimit := Receiver.limit_of_accepted hcmd hacc
      rw [Receiver.copied_of_offered _ (by rw [hall]; decide), hsize.1]
      rwa [Receiver.limit_len, hall, Option.isSome_some, if_pos rfl] at hlimit

/-- Replies to a request that was sent fit its buffer only where nothing is copied. With the id of the request they also
fit a buffer that is as large as the field. -/
theorem repliesFit_iff {call : Receiver} {d : Draft} {size : Nat} (h : run call.build = some (d, .ok size)) :
    ((∀ reply copied, call.receive reply = .ok copied → copied ≤ size) ↔ call.offered = some 0) ∧
      ((∀ reply copied, reply.command = some call.command → call.receive reply = .ok copied → copied ≤ size) ↔
        call.offered = some 0 ∨ call.offered = some (ofNat 32 outputSize)) := by
  refine ⟨⟨fun hfits => ?_, fun hnothing reply copied hreceive => ?_⟩, fitsUnderId_iff h⟩
  · by_contra hsome
    have hcopied := hfits strayReply _ (Receiver.receive_eq_ok_iff.mpr ⟨rfl, rfl⟩)
    rw [Receiver.copied_of_offered _ hsome] at hcopied
    exact absurd (size_lt_strayReply h) (Nat.not_lt.mpr hcopied)
  · obtain ⟨-, rfl⟩ := Receiver.receive_eq_ok_iff.mp hreceive
    rw [Receiver.copied_of_nothing _ hnothing]
    exact Nat.zero_le _

theorem repliesFit_iff_update : ∃ d, run (Receiver.updateSubsample ⟨none, none⟩ [] 16).build = some (d, .ok 16) ∧
    ((∀ reply copied, (Receiver.updateSubsample ⟨none, none⟩ [] 16).receive reply = .ok copied → copied ≤ 16) ↔
      Receiver.offered (.updateSubsample ⟨none, none⟩ [] 16) = some 0) :=
  ⟨_, rfl, (repliesFit_iff rfl).1⟩

def aesParams : List KeyParam :=
  [.ofType tagAlgorithm .enum type_tagAlgorithm kmAlgorithmAes, .ofType tagKeySize .uint type_tagKeySize (128#32)]

def aesKey : Receiver := .generateKey aesParams false

theorem not_fits_aesKey : ¬ ∀ d size reply copied, run aesKey.build = some (d, .ok size) → reply.command =
    some .generateKey → aesKey.receive reply = .ok copied → copied ≤ size := by
  intro h
  have hsent : ∃ d, run aesKey.build = some (d, .ok 232) := ⟨_, rfl⟩
  obtain ⟨d, hsent⟩ := hsent
  have hfits := (fitsUnderId_iff hsent).mp fun reply copied hcmd hreceive => h d 232 reply copied hsent hcmd hreceive
  rcases hfits with hnothing | hall
  · cases hnothing
  · cases hall

end ExynosHal.Strongbox.Replies
