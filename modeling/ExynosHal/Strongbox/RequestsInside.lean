import ExynosHal.Strongbox.Requests

/-! # Requests inside of their fields

A call that validates its lengths before it copies by them stays inside of the message.
-/

namespace ExynosHal.Strongbox.RequestsInside
open Library Library.BitString Params Operation Ipc KeyRequests Requests
open List (all_eq_true forall_mem_cons length_cons mem_singleton)
open Procedure (leads_expect leads_get leads_modify leads_ofExcept leads_ofOption)
open BitVec (ofNat)

def AllInside (d : Draft) : Prop := ∀ access ∈ d.accesses, access.Inside

def SafeFrom {α : Type} (before : Draft → Prop) (b : Builder α) : Prop :=
  ∀ d, AllInside d → before d → b.Leads d (fun _ d' => AllInside d') AllInside

def Filling (command : Command) (d : Draft) : Prop := d.message.command = some command

def Validated (lens : List Len) (d : Draft) : Prop := ∀ len ∈ lens, (d.message.len len).toNat ≤ len.limit

variable {command : Command} {d : Draft}

theorem validated_of_validate (hcmd : Filling command d)
    (h : validateIpcReqMessage d.message = .ok ()) : Validated (reqLens command) d := by
  by_cases hplain : command = .setAttestationData
  · rw [hplain]
    exact fun len hmem => absurd hmem List.not_mem_nil
  · exact (validate_iff hcmd hplain).mp h

namespace SafeFrom

variable {α β : Type} {before : Draft → Prop}

theorem pure (a : α) : SafeFrom before (Pure.pure a : Builder α) := fun _ hinside _ => hinside

variable {f : α → Builder β}

theorem ofOption {result : Option (Except KmErrorCode α)} (h : ∀ a, SafeFrom before (f a)) :
    SafeFrom before (Procedure.ofOption result >>= f) := fun d hinside hbefore =>
  .bind (leads_ofOption (fun a _ => h a d hinside hbefore) hinside)

theorem ofExcept {result : Except KmErrorCode α} (h : ∀ a, SafeFrom before (f a)) :
    SafeFrom before (Procedure.ofExcept result >>= f) := fun d hinside hbefore =>
  .bind (leads_ofExcept (fun a _ => h a d hinside hbefore) hinside)

variable {f : Unit → Builder β}

theorem expectTrue {error : KmErrorCode} {condition : Bool} (h : condition → SafeFrom before (f ())) :
    SafeFrom before (Ipc.expectTrue error condition >>= f) := fun d hinside hbefore =>
  .bind (leads_expect (fun hcond => h hcond d hinside hbefore) hinside)

variable {command : Command}

theorem start (h : SafeFrom (Filling command) (f ())) : SafeFrom before (Ipc.start command >>= f) := fun _ hinside _ =>
  .bind (leads_modify (h _ hinside rfl))

theorem setLen {len : Len} {value : U32} (h : SafeFrom (Filling command) (f ())) :
    SafeFrom (Filling command) (Ipc.setLen len value >>= f) := fun _ hinside hfilling =>
  .bind (leads_modify (h _ hinside hfilling))

theorem validate (h : SafeFrom (Validated (reqLens command)) (f ())) :
    SafeFrom (Filling command) (Ipc.validate >>= f) := fun d hinside hfilling =>
  .bind (.bind (leads_get (leads_ofExcept
    (fun _ hvalid => h d hinside (validated_of_validate hfilling hvalid)) hinside)))

theorem validate_last : SafeFrom (Filling command) Ipc.validate := fun _ hinside _ =>
  .bind (leads_get (leads_ofExcept (fun _ _ => hinside) hinside))

end SafeFrom

variable {access : Access}

theorem AllInside.append (h : AllInside d) (haccess : access.Inside) : ∀ a ∈ d.accesses ++ [access], a.Inside := by
  intro a hmem
  rcases List.mem_append.mp hmem with hmem | hmem
  · exact h a hmem
  · rwa [mem_singleton.mp hmem]

def Keeps {α : Type} (known : Draft → Prop) (b : Builder α) : Prop :=
  ∀ d, AllInside d → known d → b.Leads d (fun _ d' => AllInside d' ∧ known d') AllInside

def Stable (known : Draft → Prop) : Prop :=
  ∀ d d' : Draft, d'.message.command = d.message.command → d'.message.len = d.message.len → known d → known d'

theorem stable_filling (command : Command) : Stable (Filling command) := fun _ _ hcmd _ h => hcmd.trans h

theorem stable_validated (lens : List Len) : Stable (Validated lens) := by
  intro d d' _ hlen h len hmem
  rw [hlen]
  exact h len hmem

namespace Keeps

variable {α β : Type} {known : Draft → Prop} {b : Builder α}

theorem safe (h : Keeps known b) : SafeFrom known b := fun d hinside hknown =>
  (h d hinside hknown).mono (fun _ _ hboth => hboth.1) fun _ hinside => hinside

variable {f : α → Builder β}

theorem bind (h : Keeps known b) (hf : ∀ a, Keeps known (f a)) : Keeps known (b >>= f) :=
  fun d hinside hknown => .bind ((h d hinside hknown).mono (fun a d' hboth => hf a d' hboth.1 hboth.2) fun _ hinside =>
    hinside)

theorem next (h : Keeps known b) (hf : ∀ a, SafeFrom known (f a)) : SafeFrom known (b >>= f) :=
  fun d hinside hknown => .bind ((h d hinside hknown).mono (fun a d' hboth => hf a d' hboth.1 hboth.2) fun _ hinside =>
    hinside)

theorem pure (a : α) : Keeps known (Pure.pure a : Builder α) := fun _ hinside hknown => ⟨hinside, hknown⟩

theorem ofOption (result : Option (Except KmErrorCode α)) : Keeps known (Procedure.ofOption result) :=
  fun _ hinside hknown =>
  leads_ofOption (fun _ _ => ⟨hinside, hknown⟩) hinside

theorem ofExcept (result : Except KmErrorCode α) : Keeps known (Procedure.ofExcept result) := fun _ hinside hknown =>
  leads_ofExcept (fun _ _ => ⟨hinside, hknown⟩) hinside

theorem expectTrue (error : KmErrorCode) (condition : Bool) : Keeps known (Ipc.expectTrue error condition) :=
  fun _ hinside hknown => leads_expect (fun _ => ⟨hinside, hknown⟩) hinside

variable {source : List Byte} {field : Field}

theorem copy (hstable : Stable known) {len : Nat} (hlen : len ≤ field.size) :
    Keeps known (Ipc.copy field source len) := fun d hinside hknown =>
  leads_modify ⟨hinside.append hlen, hstable d _ rfl rfl hknown⟩

theorem param (hstable : Stable known) {i : Nat} (hi : i < 2) : Keeps known (Ipc.param i) := fun d hinside hknown =>
  leads_modify ⟨hinside.append hi, hstable d _ rfl rfl hknown⟩

variable {command : Command} {len : Len}

theorem setLen {value : U32} : Keeps (Filling command) (Ipc.setLen len value) :=
  fun _ hinside hfilling => leads_modify ⟨hinside, hfilling⟩

variable {lens : List Len}

theorem copyLen (hmem : len ∈ lens) : Keeps (Validated lens) (Ipc.copyLen len source) := fun d hinside hvalid =>
  .bind (leads_get (copy (stable_validated lens) (hvalid len hmem) d hinside hvalid))

theorem copyPositive (hmem : len ∈ lens) : Keeps (Validated lens) (Requests.copyPositive len source) := by
  intro d hinside hvalid
  refine .bind (leads_get ?_)
  split_ifs
  · exact copyLen hmem d hinside hvalid
  · exact ⟨hinside, hvalid⟩

theorem copyMac {token : Option (List Byte)} (hfield : 32 ≤ field.size) :
    Keeps (Filling command) (Requests.copyMac field token) := by
  cases token with
  | none => exact pure ()
  | some mac =>
    rw [Requests.copyMac]
    split_ifs
    · exact pure ()
    · intro d hinside hfilling
      exact .bind (leads_expect (fun _ => copy (stable_filling command) hfield d hinside hfilling) hinside)

theorem copyTokens {tokens : Tokens} : Keeps (Filling command) (Requests.copyTokens tokens) :=
  bind (copyMac (Nat.le_refl _)) fun _ => copyMac (Nat.le_refl _)

end Keeps

namespace SafeFrom

variable {β : Type} {lens : List Len} {len : Len} {source : List Byte} {f : Unit → Builder β}

theorem copyLen (hmem : len ∈ lens) (h : SafeFrom (Validated lens) (f ())) :
    SafeFrom (Validated lens) (Ipc.copyLen len source >>= f) := (Keeps.copyLen hmem).next fun _ => h

theorem copyPositive (hmem : len ∈ lens) (h : SafeFrom (Validated lens) (f ())) :
    SafeFrom (Validated lens) (Requests.copyPositive len source >>= f) := (Keeps.copyPositive hmem).next fun _ => h

end SafeFrom

abbrev Safe {α : Type} (b : Builder α) : Prop := SafeFrom (fun _ => True) b

variable {α : Type} {b : Builder α}

theorem insideFields_of_safe (h : Safe b) : InsideFields b := by
  intro d result hrun
  have hleads := h ⟨Message.zero, []⟩ (fun access hmem => absurd hmem List.not_mem_nil) trivial
  rw [Procedure.Leads, show b ⟨Message.zero, []⟩ = some (d, result) from hrun] at hleads
  cases result with
  | error e => exact hleads
  | ok a => exact hleads

theorem safe_sendPlain (command : Command) : Safe (sendPlain command) := .start .validate_last

theorem safe_sspSetSampleAttestationData (blobLen : U32) :
    Safe (sspSetSampleAttestationData blobLen) := .start (.setLen .validate_last)

theorem safe_sspSendSystemVersion (params : List KeyParam) : Safe (sspSendSystemVersion params) :=
  .ofOption fun _ => .start <| .setLen <| .validate (Keeps.copyLen (by decide)).safe

theorem safe_sspDeviceLocked (timestampToken : Option (List Byte)) : Safe (sspDeviceLocked timestampToken) :=
  .start <| (Keeps.copyMac (Nat.le_refl _)).next fun _ => .validate_last

theorem safe_sspGenerateKey (params : List KeyParam) (wantsCharacteristics : Bool) :
    Safe (sspGenerateKey params wantsCharacteristics) :=
  .ofExcept fun _ => .ofExcept fun _ => .expectTrue fun _ => .ofExcept fun _ => .ofOption fun _ => .expectTrue fun _ =>
    .start <| .setLen <| .setLen <| .setLen <| .validate <| .copyLen (by decide) <| .pure _

theorem keeps_importKeydata (known : Draft → Prop) (args : ImportArgs) (algorithm : U32) :
    Keeps known (importKeydata args algorithm) := by
  rw [importKeydata]
  split_ifs
  · exact (Keeps.ofOption _).bind fun _ => (Keeps.ofOption _).bind fun _ => (Keeps.expectTrue _ _).bind fun _ =>
      Keeps.pure _
  · exact (Keeps.ofOption _).bind fun _ => Keeps.pure _
  · exact Keeps.ofExcept _
  · exact Keeps.pure _

theorem safe_sspImportKey (args : ImportArgs) : Safe (sspImportKey args) :=
  .ofExcept fun _ => (keeps_importKeydata _ _ _).next fun _ => .expectTrue fun _ => .ofOption fun _ =>
    .expectTrue fun _ =>
    .expectTrue fun _ => .expectTrue fun _ => .ofOption fun _ => .expectTrue fun _ =>
    .start <| .setLen <| .setLen <| .setLen <| .setLen <| .validate <|
    .copyLen (by decide) <| .copyLen (by decide) <| .pure _

theorem safe_sspImportWrappedkey (args : ImportWrappedArgs) : Safe (sspImportWrappedkey args) :=
  .ofOption fun _ => .ofOption fun _ => .ofExcept fun _ => .expectTrue fun _ => .ofOption fun _ => .expectTrue fun _ =>
    .start <| .setLen <| .setLen <| .setLen <| .setLen <| .setLen <| .setLen <| .setLen <| .setLen <| .setLen <|
    .setLen <| .setLen <| .validate <| .copyLen (by decide) <|
    .ofOption fun _ => .copyLen (by decide) <| .ofOption fun _ => .copyLen (by decide) <|
    .ofOption fun _ => .copyLen (by decide) <| .copyLen (by decide) <| .copyLen (by decide) <|
    .copyLen (by decide) <| .copyLen (by decide) <| .copyLen (by decide) <| .pure _

theorem safe_sspGetKeyCharacteristics (keyBlob : List Byte) (clientId appData : Option (List Byte)) :
    Safe (sspGetKeyCharacteristics keyBlob clientId appData) := by
  have hcopy : ∀ (lens : List Len) (len : Len) (source : List Byte), source.length ≤ len.limit →
      Keeps (Validated lens) (copyNonempty len source) := by
    intro lens len source hlen
    rw [copyNonempty]
    split_ifs
    · exact Keeps.copy (stable_validated lens) hlen
    · exact Keeps.pure ()
  exact .expectTrue fun hclient => .expectTrue fun happ => .start <| .setLen <| .setLen <| .setLen <| .setLen <|
    .validate <|
    .copyLen (by decide) <| (hcopy _ _ _ (of_decide_eq_true hclient)).next fun _ =>
    (hcopy _ _ _ (of_decide_eq_true happ)).safe

theorem safe_startAttest {keyblob attestationBlob : List Byte} {keyparamsLen : U32} {f : Unit → Builder Unit}
    (h : SafeFrom (Filling command) (f ())) :
    Safe (startAttest command keyblob attestationBlob keyparamsLen >>= f) := fun _ hinside _ =>
  .bind (.bind (leads_modify (.bind (leads_modify (.bind (leads_modify (.bind
    (leads_modify (leads_modify (h _ hinside rfl))))))))))

variable (attestKeyblob : List Byte)

theorem safe_sspFactoryAttestKey (attestParams : List KeyParam) (file : Option (List Byte)) :
    Safe (sspFactoryAttestKey attestKeyblob attestParams file) :=
  .ofOption fun _ => .expectTrue fun _ => safe_startAttest <| .validate <| .copyLen (by decide) <|
    .copyLen (by decide) <| (Keeps.copyPositive (by decide)).safe

theorem safe_sspSelfAttestKey (attestParams : List KeyParam) : Safe (sspSelfAttestKey attestKeyblob attestParams) := by
  refine .ofOption fun _ => safe_startAttest <| .validate <| .copyLen (by decide) <| ?_
  intro d hinside hvalid
  refine .bind (leads_get ?_)
  have hkeyblob : (d.message.len .attestKeyblob).toNat ≤ keyblobSize := hvalid .attestKeyblob (by decide)
  have hfits : (d.message.len .attestKeyblob).toNat ≤ Field.size (.of .attestAttestationBlob) :=
    hkeyblob.trans (by decide)
  exact ((Keeps.copy (stable_validated _) hfits).next fun _ => (Keeps.copyPositive (by decide)).safe) d hinside hvalid

theorem safe_sspUpgradeKey (keyblobToUpgrade : Option (List Byte)) (upgradeParams : List KeyParam) :
    Safe (sspUpgradeKey keyblobToUpgrade upgradeParams) :=
  .ofOption fun _ => .start <| .setLen <| .setLen <| .setLen <| .validate <| .copyLen (by decide) <|
    (Keeps.copyLen (by decide)).safe

theorem safe_sspBegin (keyblob : Option (List Byte)) (inParams : List KeyParam) (authToken : Option (List Byte))
    (wantsOutParams : Bool) : Safe (sspBegin keyblob inParams authToken wantsOutParams) := by
  refine .ofOption fun _ => .start <| .setLen <| .setLen <| .setLen <| (Keeps.copyMac (Nat.le_refl _)).next fun _ =>
    .validate ?_
  split_ifs
  · exact .copyLen (by decide) <| (Keeps.copyLen (by decide)).safe
  · exact (Keeps.pure _).next fun _ => (Keeps.copyLen (by decide)).safe

theorem safe_sspUpdateAad (algorithm : U32) (inParams : List KeyParam) (tokens : Tokens) :
    Safe (sspUpdateAad algorithm inParams tokens) :=
  .ofOption fun _ => .expectTrue fun _ => .start <| .setLen <| Keeps.copyTokens.next fun _ => .validate <|
    (Keeps.copyPositive (by decide)).safe

variable (tokens : Tokens)

theorem safe_updateSubsample (input : List Byte) (outputLen : U32) : Safe (updateSubsample tokens input outputLen) :=
  .start <| .setLen <| .setLen <| .setLen <| Keeps.copyTokens.next fun _ =>
    .validate <| (Keeps.copyPositive (by decide)).safe

theorem safe_finishSubsample (input : List Byte) (outputLen : U32)
    (signature confirmationToken : Option (List Byte)) :
    Safe (finishSubsample tokens input outputLen signature confirmationToken) :=
  .start <| .setLen <| .setLen <| .setLen <| .setLen <| .setLen <| .setLen <| Keeps.copyTokens.next fun _ =>
    .validate <|
    .copyPositive (by decide) <| .copyPositive (by decide) <|
    (Keeps.copyPositive (by decide)).safe

def Records {α : Type} (access : Access) (b : Builder α) (d : Draft) : Prop :=
  ∃ d' result, b d = some (d', result) ∧ access ∈ d'.accesses

def Remembers {α : Type} (access : Access) (b : Builder α) : Prop := ∀ d, access ∈ d.accesses → Records access b d

theorem Records.bind {β : Type} {f : α → Builder β} (h : Records access b d)
    (hf : ∀ a, Remembers access (f a)) : Records access (b >>= f) d := by
  obtain ⟨d', result, hb, hmem⟩ := h
  cases result with
  | error e => exact ⟨d', .error e, by simp only [Bind.bind, hb], hmem⟩
  | ok a =>
    obtain ⟨d'', result, hrest, hmem'⟩ := hf a d' hmem
    exact ⟨d'', result, by simp only [Bind.bind, hb, hrest], hmem'⟩

namespace Remembers

variable {α β : Type} {access : Access}

theorem pure (a : α) : Remembers access (Pure.pure a : Builder α) := fun d hmem => ⟨d, _, rfl, hmem⟩

theorem modify {g : Draft → Draft} (h : ∀ d, access ∈ d.accesses → access ∈ (g d).accesses) :
    Remembers access (Procedure.modify g) := fun d hmem => ⟨g d, _, rfl, h d hmem⟩

theorem bind {b : Builder α} {f : α → Builder β} (h : Remembers access b) (hf : ∀ a, Remembers access (f a)) :
    Remembers access (b >>= f) := fun d hmem => (h d hmem).bind hf

variable (len : Len)

theorem setLen (value : U32) : Remembers access (Ipc.setLen len value) := modify fun _ hmem => hmem

theorem copy (field : Field) (source : List Byte) (len : Nat) : Remembers access (Ipc.copy field source len) :=
  modify fun _ hmem => List.mem_append_left _ hmem

theorem param (i : Nat) : Remembers access (Ipc.param i) := modify fun _ hmem => List.mem_append_left _ hmem

theorem validate : Remembers access Ipc.validate := fun d hmem => ⟨d, validateIpcReqMessage d.message, rfl, hmem⟩

variable (source : List Byte)

theorem copyLen : Remembers access (Ipc.copyLen len source) := fun d hmem =>
  copy (.of len) source (d.message.len len).toNat d hmem

theorem copyPositive : Remembers access (Requests.copyPositive len source) := by
  intro d hmem
  have hstep : Requests.copyPositive len source d =
      (if 0 < (d.message.len len).toNat then Ipc.copyLen len source else Pure.pure ()) d := rfl
  rw [Records, hstep]
  split_ifs
  · exact copyLen len source d hmem
  · exact pure () d hmem

end Remembers

theorem toNat_ofNat_32 (value : Nat) : (ofNat 32 value).toNat = value % 2 ^ 32 := BitVec.toNat_ofNat _ _

variable (data : List Byte)

theorem insideFields_sspAddRngEntropy_iff :
    InsideFields (sspAddRngEntropy data) ↔ (data.length % 2 ^ 32 ≤ 2048 → data.length ≤ 2048) := by
  constructor
  · intro h hcheck
    have hrun : ∃ m, run (sspAddRngEntropy data) = some (⟨m, [.copy (.of .rngEntropy) data.length]⟩, .ok ()) := by
      refine ⟨_, (validate_bind_of_ok ((validate_iff rfl (by decide)).mpr (List.forall_mem_singleton.mpr ?_))).trans
        rfl⟩
      exact (toNat_ofNat_32 _).trans_le hcheck
    obtain ⟨m, hrun⟩ := hrun
    exact h _ _ hrun _ (mem_singleton.mpr rfl)
  · intro h
    refine insideFields_of_safe fun d hinside _ => .bind (leads_modify (.bind (leads_modify ?_)))
    refine .bind (.bind (leads_get (leads_ofExcept (fun _ hvalid => ?_) hinside)))
    have hlen := check_eq_ok_iff.mp hvalid .rngEntropy (mem_singleton.mpr rfl)
    have hcopy : data.length ≤ 2048 := h ((toNat_ofNat_32 data.length).symm.trans_le hlen)
    exact (Keeps.copy (stable_filling .addRngEntropy) hcopy).safe _ hinside rfl

theorem insideFields_sspSetAttestationData_iff (blobLen : U32) : InsideFields (sspSetAttestationData data blobLen) ↔
      (blobLen.toNat ≤ attestationDataMaxLen → data.length % 2 ^ 32 < 2 ^ 32 - 16) := by
  have hvalidate : ∀ m : Message, m.command = some .setAttestationData → (validateIpcReqMessage m = .ok () ↔
        ((m.len .setAttestationData).toNat + 16) % 2 ^ 32 ≤ attestationDataMaxLen ∧
          (m.len .setAttestationBlob).toNat ≤ attestationDataMaxLen) := by
    intro m hcmd
    have hsum : (m.len .setAttestationData + 16#32).toNat = ((m.len .setAttestationData).toNat + 16) % 2 ^ 32 := by
      rw [BitVec.toNat_add]
      rfl
    have hblob : m.check [.setAttestationBlob] = .ok () ↔ (m.len .setAttestationBlob).toNat ≤
        attestationDataMaxLen := by
      rw [check_eq_ok_iff]
      exact List.forall_mem_singleton
    simp only [validateIpcReqMessage, hcmd, checkSetAttestationData, Operation.expect, hsum, decide_eq_true_eq]
    split_ifs with hfst
    · rw [and_iff_right hfst]
      exact hblob
    · exact iff_of_false (fun hok => by cases hok) fun hboth => hfst hboth.1
  constructor
  · intro h hblob
    by_contra hlong
    have hrun : ∃ m, run (sspSetAttestationData data blobLen) =
        some (⟨m, [.copy (.of .setAttestationData) (ofNat 32 data.length).toNat]⟩, .ok ()) := by
      refine ⟨_, (validate_bind_of_ok ((hvalidate _ rfl).mpr ⟨?_, hblob⟩)).trans rfl⟩
      show ((ofNat 32 data.length).toNat + 16) % 2 ^ 32 ≤ attestationDataMaxLen
      rw [toNat_ofNat_32, attestationDataMaxLen]
      omega
    obtain ⟨m, hrun⟩ := hrun
    have hinside : (ofNat 32 data.length).toNat ≤ attestationDataMaxLen := h _ _ hrun _ (mem_singleton.mpr rfl)
    rw [toNat_ofNat_32, attestationDataMaxLen] at hinside
    omega
  · intro h
    refine insideFields_of_safe fun d hinside _ =>
      .bind (leads_modify (.bind (leads_modify (.bind (leads_modify ?_)))))
    refine .bind (.bind (leads_get (leads_ofExcept (fun _ hvalid => ?_) hinside)))
    obtain ⟨hsum, hblob⟩ := (hvalidate _ rfl).mp hvalid
    have hsum' : ((ofNat 32 data.length).toNat + 16) % 2 ^ 32 ≤ attestationDataMaxLen := hsum
    have hshort := h hblob
    have hlen : (ofNat 32 data.length).toNat ≤ attestationDataMaxLen := by
      rw [toNat_ofNat_32] at hsum' ⊢
      omega
    refine .bind (leads_get ?_)
    exact (Keeps.copy (stable_filling .setAttestationData) hlen).safe _ hinside rfl

def AttestAccepted (signingKeyblob attestKeyblob : List Byte) (attestParams : List KeyParam) : Prop :=
  ∃ size blob, serializedParams attestParams 0 0 = some (.ok (size, blob)) ∧
    size.toNat ≤ keyCharacteristicsCommonMaxLen ∧
    signingKeyblob.length % 2 ^ 32 ≤ keyblobSize ∧ attestKeyblob.length % 2 ^ 32 ≤ attestationDataMaxLen

theorem copyPositive_bind_of_positive {len : Len} {source : List Byte} {f : Unit → Builder α}
    (h : 0 < (d.message.len len).toNat) : (copyPositive len source >>= f) d = (copyLen len source >>= f) d := by
  have hstep : (copyPositive len source >>= f) d =
      ((if 0 < (d.message.len len).toNat then copyLen len source else pure ()) >>= f) d := rfl
  rw [hstep, if_pos h]

theorem run_sspAttestKey {issuerSubject signingKeyblob attestKeyblob : List Byte} {attestParams : List KeyParam}
    (h : AttestAccepted signingKeyblob attestKeyblob attestParams) (hpos : 0 < (ofNat 32 issuerSubject.length).toNat) :
    ∃ d result, run (sspAttestKey issuerSubject signingKeyblob attestKeyblob attestParams) = some (d, result) ∧
      .copy (.of .attestIssuerBlob) (ofNat 32 issuerSubject.length).toNat ∈ d.accesses := by
  obtain ⟨size, blob, hser, hsize, hsigning, hattest⟩ := h
  have hserialized : ∀ f : U32 × List Byte → Builder Unit,
      run (serializeParams attestParams 0 0 >>= f) = run (f (size, blob)) := by
    intro f
    simp only [run, serializeParams, Procedure.ofOption, Bind.bind, hser, Option.map_some]
  have hfilled : ∃ d : Draft, (∀ f : Unit → Builder Unit,
      run (startAttest .attestKey signingKeyblob attestKeyblob size >>= fun _ =>
        setLen .attestIssuerBlob (ofNat 32 issuerSubject.length) >>= f) = f () d) ∧
      d.message.command = some .attestKey ∧
      d.message.len .attestIssuerBlob = ofNat 32 issuerSubject.length ∧
      d.message.len .attestAttestationBlob = ofNat 32 attestKeyblob.length ∧
      d.message.len .attestKeyblob = ofNat 32 signingKeyblob.length ∧
      d.message.len .attestKeyparams = size ∧ d.message.len .attestCertChain = ofNat 32 Len.attestCertChain.limit :=
    ⟨_, fun _ => rfl, rfl, rfl, rfl, rfl, rfl, rfl⟩
  obtain ⟨d, hfilled, hcmd, hissuer, hblob, hkeyblob, hparams, hchain⟩ := hfilled
  have hvalid : validateIpcReqMessage d.message = .ok () := by
    refine (validate_iff hcmd (by decide)).mpr (forall_mem_cons.mpr ⟨?_, forall_mem_cons.mpr ⟨?_,
      forall_mem_cons.mpr ⟨?_, List.forall_mem_singleton.mpr ?_⟩⟩⟩)
    · rw [hblob, toNat_ofNat_32]
      exact hattest
    · rw [hkeyblob, toNat_ofNat_32]
      exact hsigning
    · rw [hparams]
      exact hsize
    · rw [hchain]
      decide
  rw [← hissuer] at hpos ⊢
  simp only [sspAttestKey, hserialized, hfilled]
  rw [validate_bind_of_ok hvalid]
  have hcopied : ∃ d' : Draft, (∀ f : Unit → Builder Unit, (copyLen .attestKeyblob signingKeyblob >>= f) d = f () d') ∧
      d'.message.len = d.message.len := ⟨_, fun _ => rfl, rfl⟩
  obtain ⟨d', hcopied, hlen⟩ := hcopied
  rw [hcopied, copyPositive_bind_of_positive (by rwa [hlen]), ← hlen]
  refine ((Remembers.copyLen _ _).bind fun _ => Remembers.copyPositive _ _) _ ?_
  exact List.mem_append_right _ (mem_singleton.mpr rfl)

theorem insideFields_sspAttestKey_iff (issuerSubject signingKeyblob attestKeyblob : List Byte)
    (attestParams : List KeyParam) :
    InsideFields (sspAttestKey issuerSubject signingKeyblob attestKeyblob attestParams) ↔
      (AttestAccepted signingKeyblob attestKeyblob attestParams → issuerSubject.length % 2 ^ 32 ≤ 64) := by
  constructor
  · intro h hacc
    by_contra hlong
    have hpos : 0 < (ofNat 32 issuerSubject.length).toNat := by
      rw [toNat_ofNat_32]
      omega
    obtain ⟨d, result, hrun, hmem⟩ := run_sspAttestKey hacc hpos
    have hinside : (ofNat 32 issuerSubject.length).toNat ≤ 64 := h _ _ hrun _ hmem
    rw [toNat_ofNat_32] at hinside
    exact hlong hinside
  · intro h
    refine insideFields_of_safe fun d hinside _ => .bind (leads_ofOption (fun result hser => ?_) hinside)
    obtain ⟨size, blob⟩ := result
    refine .bind (.bind (leads_modify (.bind (leads_modify (.bind (leads_modify (.bind
      (leads_modify (leads_modify (.bind (leads_modify ?_)))))))))))
    refine .bind (.bind (leads_get (leads_ofExcept (fun _ hvalid => ?_) hinside)))
    have hlens := (@validate_iff .attestKey _ rfl (by decide)).mp hvalid
    have hissuer : issuerSubject.length % 2 ^ 32 ≤ 64 := by
      refine h ⟨size, blob, hser, hlens .attestKeyparams (by decide), ?_, ?_⟩
      · exact (toNat_ofNat_32 _).symm.trans_le (hlens .attestKeyblob (by decide))
      · exact (toNat_ofNat_32 _).symm.trans_le (hlens .attestAttestationBlob (by decide))
    have hrest : SafeFrom (Validated (.attestIssuerBlob :: attestLens)) (do
        copyLen .attestKeyblob signingKeyblob
        copyPositive .attestIssuerBlob issuerSubject
        copyLen .attestAttestationBlob attestKeyblob
        copyPositive .attestKeyparams blob) :=
      .copyLen (by decide) <| .copyPositive (by decide) <|
        .copyLen (by decide) <| (Keeps.copyPositive (by decide)).safe
    exact hrest _ hinside (forall_mem_cons.mpr ⟨(toNat_ofNat_32 _).trans_le hissuer, hlens⟩)

variable {params : List HmacSharingParams} {i : Nat}

theorem keeps_copyParams {lens : List Len} (hi : i + params.length ≤ 2)
    (hlens : ∀ j < 2, .paramSeed j ∈ lens ∧ .paramNonce j ∈ lens) : Keeps (Validated lens) (copyParams i params) := by
  induction params generalizing i with
  | nil => exact Keeps.pure ()
  | cons p params ih =>
    rw [length_cons] at hi
    have hmem := hlens i (by omega)
    exact (Keeps.param (stable_validated lens) (by omega)).bind fun _ => (Keeps.copyPositive hmem.2).bind fun _ =>
      (Keeps.copyPositive hmem.1).bind fun _ => ih (by omega)

theorem keeps_setParamLens (hi : i + params.length ≤ 2) : Keeps (Filling command) (setParamLens i params) := by
  induction params generalizing i with
  | nil => exact Keeps.pure ()
  | cons p params ih =>
    rw [length_cons] at hi
    exact (Keeps.param (stable_filling command) (by omega)).bind fun _ => Keeps.setLen.bind fun _ =>
      Keeps.setLen.bind fun _ =>
      ih (by omega)

theorem remembers_setParamLens (params : List HmacSharingParams) (i : Nat) :
    Remembers access (setParamLens i params) := by
  induction params generalizing i with
  | nil => exact Remembers.pure ()
  | cons p params ih =>
    exact (Remembers.param i).bind fun _ => (Remembers.setLen _ _).bind fun _ => (Remembers.setLen _ _).bind fun _ =>
      ih (i + 1)

theorem remembers_copyParams (params : List HmacSharingParams) (i : Nat) : Remembers access (copyParams i params) := by
  induction params generalizing i with
  | nil => exact Remembers.pure ()
  | cons p params ih =>
    exact (Remembers.param i).bind fun _ => (Remembers.copyPositive _ _).bind fun _ =>
      (Remembers.copyPositive _ _).bind fun _ =>
      ih (i + 1)

theorem records_setParamLens (hi : i ≤ 2) (hlong : 2 < i + params.length) (d : Draft) :
    Records (.param 2) (setParamLens i params) d := by
  induction params generalizing i d with
  | nil =>
    rw [List.length_nil] at hlong
    omega
  | cons p params ih =>
    rw [length_cons] at hlong
    rcases hi.lt_or_eq with hlt | rfl
    · exact ih (by omega) (by omega) _
    · have hhere : Records (.param 2) (param 2) d := ⟨_, _, rfl, List.mem_append_right _ (mem_singleton.mpr rfl)⟩
      exact hhere.bind fun _ => (Remembers.setLen _ _).bind fun _ => (Remembers.setLen _ _).bind fun _ =>
        remembers_setParamLens _ _

theorem insideFields_sspComputeSharedHmac_iff (params : List HmacSharingParams) :
    InsideFields (sspComputeSharedHmac params) ↔
      ((∀ p ∈ params, p.seed.wellFormed ∧ p.nonce.wellFormed) → params.length ≤ 2) := by
  constructor
  · intro h hwellFormed
    by_contra hlong
    have hcnt : decide (1 ≤ params.length) = true := decide_eq_true (by omega)
    have hseed : (params.all fun p => p.seed.wellFormed) = true := all_eq_true.mpr fun p hmem => (hwellFormed p hmem).1
    have hnonce : (params.all fun p => p.nonce.wellFormed) = true :=
      all_eq_true.mpr fun p hmem => (hwellFormed p hmem).2
    have hrun : Records (.param 2) (sspComputeSharedHmac params) ⟨Message.zero, []⟩ := by
      simp only [sspComputeSharedHmac, hcnt, hseed, hnonce]
      exact (records_setParamLens (Nat.zero_le 2) (by omega) _).bind fun _ => Remembers.validate.bind fun _ =>
        remembers_copyParams _ _
    obtain ⟨d, result, hrun, hmem⟩ := hrun
    exact absurd (h d result hrun _ hmem) (Nat.lt_irrefl 2)
  · intro h
    refine insideFields_of_safe (.expectTrue fun _ => .expectTrue fun hseed => .expectTrue fun hnonce => .start <|
      .setLen ?_)
    have hcnt : params.length ≤ 2 := h fun p hmem => ⟨all_eq_true.mp hseed p hmem, all_eq_true.mp hnonce p hmem⟩
    refine (keeps_setParamLens (by omega)).next fun _ => .validate (keeps_copyParams (by omega) ?_).safe
    decide

def WithinLimits : Requests.Call → Prop
  | .attestKey issuerSubject signingKeyblob attestKeyblob attestParams =>
    AttestAccepted signingKeyblob attestKeyblob attestParams → issuerSubject.length % 2 ^ 32 ≤ 64
  | .computeSharedHmac params =>
    (∀ p ∈ params, p.seed.wellFormed ∧ p.nonce.wellFormed) → params.length ≤ 2
  | .addRngEntropy data => data.length % 2 ^ 32 ≤ 2048 → data.length ≤ 2048
  | .setAttestationData data blobLen => blobLen.toNat ≤ attestationDataMaxLen → data.length % 2 ^ 32 < 2 ^ 32 - 16
  | _ => True

theorem insideFields_discard (h : Safe b) : InsideFields (do let _ ← b) := insideFields_of_safe fun d hinside _ =>
  .bind ((h d hinside trivial).mono (fun _ _ hinside => hinside) fun _ hinside => hinside)

/-- A call stays inside of the fields of its message exactly if it is within these limits. -/
theorem insideFields_iff (call : Requests.Call) : InsideFields call.build ↔ WithinLimits call := by
  cases call with
  | attestKey issuerSubject signingKeyblob attestKeyblob attestParams => exact insideFields_sspAttestKey_iff _ _ _ _
  | computeSharedHmac params => exact insideFields_sspComputeSharedHmac_iff params
  | addRngEntropy data => exact insideFields_sspAddRngEntropy_iff data
  | setAttestationData data blobLen => exact insideFields_sspSetAttestationData_iff data blobLen
  | initIpc | getHmacSharingParameters | abort | earlyBootEnded | sendDummySystemVersion =>
    exact iff_of_true (insideFields_of_safe (safe_sendPlain _)) trivial
  | setSampleAttestationData blobLen =>
    exact iff_of_true (insideFields_of_safe (safe_sspSetSampleAttestationData _)) trivial
  | sendSystemVersion params => exact iff_of_true (insideFields_of_safe (safe_sspSendSystemVersion _)) trivial
  | generateKey params wantsCharacteristics =>
    exact iff_of_true (insideFields_discard (safe_sspGenerateKey _ _)) trivial
  | getKeyCharacteristics keyBlob clientId appData =>
    exact iff_of_true (insideFields_of_safe (safe_sspGetKeyCharacteristics _ _ _)) trivial
  | importKey args => exact iff_of_true (insideFields_discard (safe_sspImportKey _)) trivial
  | importWrappedkey args => exact iff_of_true (insideFields_discard (safe_sspImportWrappedkey _)) trivial
  | begin keyblob inParams authToken wantsOutParams =>
    exact iff_of_true (insideFields_of_safe (safe_sspBegin _ _ _ _)) trivial
  | updateAad algorithm inParams tokens => exact iff_of_true (insideFields_of_safe (safe_sspUpdateAad _ _ _)) trivial
  | updateSubsample tokens input outputLen =>
    exact iff_of_true (insideFields_of_safe (safe_updateSubsample _ _ _)) trivial
  | finishSubsample tokens input outputLen signature confirmationToken =>
    exact iff_of_true (insideFields_of_safe (safe_finishSubsample _ _ _ _ _)) trivial
  | selfAttestKey attestKeyblob attestParams =>
    exact iff_of_true (insideFields_of_safe (safe_sspSelfAttestKey _ _)) trivial
  | factoryAttestKey attestKeyblob attestParams file =>
    exact iff_of_true (insideFields_of_safe (safe_sspFactoryAttestKey _ _ _)) trivial
  | upgradeKey keyblobToUpgrade upgradeParams =>
    exact iff_of_true (insideFields_of_safe (safe_sspUpgradeKey _ _)) trivial
  | deviceLocked timestampToken => exact iff_of_true (insideFields_of_safe (safe_sspDeviceLocked _)) trivial

def longIssuer : Requests.Call := .attestKey (List.replicate 65 0) [] [] []

theorem not_insideFields_longIssuer : ¬ InsideFields longIssuer.build := by
  intro h
  have hacc : AttestAccepted [] [] [] := ⟨4, [0, 0, 0, 0], by decide, by decide, by decide, by decide⟩
  have hshort := (insideFields_sspAttestKey_iff (List.replicate 65 0) [] [] []).mp h hacc
  rw [List.length_replicate] at hshort
  exact absurd hshort (by decide)

end ExynosHal.Strongbox.RequestsInside
