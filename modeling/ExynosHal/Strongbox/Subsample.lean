import ExynosHal.Strongbox.Requests

/-! # Streaming an input in subsamples

`subsample_input_data` with the messages it sends. The trusted application is a function of the
position of a command and of its message; it may fail to answer. The loop has fuel, and is not
defined when that runs out.
-/

namespace ExynosHal.Strongbox.Subsample
open Library Library.BitString Ipc Requests
open Operation (KmErrorCode kmErrorSecureHwCommunicationFailed sspDataSubsampleSize sspReservedBufForTagLen)
open Procedure (leads_get leads_modify)

structure Args where
  tokens : Tokens
  signature : Option (List Byte)
  confirmationToken : Option (List Byte)
  isFinishOp : Bool

/-- The bytes from `input_data` to its end, with `none` for a null pointer, and `output_eob - output` likewise.
`output_result_len` is a `size_t`, which is taken to hold the sum. -/
structure Cursor where
  inputData : Option (List Byte)
  output : Option U64
  needLastSubsample : Bool
  inputConsumedLen : U32
  outputResultLen : Nat

structure Exchange where
  request : Message
  reply : Option Message

structure Loop where
  cursor : Cursor
  exchanges : List Exchange

abbrev TrustedApp := Nat → Message → Option Message

namespace Cursor

def isLastSubsample (c : Cursor) : Bool :=
  match c.inputData with
  | none => true
  | some bytes => bytes.length ≤ sspDataSubsampleSize

def inputBucket (c : Cursor) : List Byte :=
  match c.inputData with
  | none => []
  | some bytes => bytes.take sspDataSubsampleSize

def outputBucketLen (c : Cursor) : U32 :=
  match c.output with
  | none => 0
  | some n =>
    if c.isLastSubsample then n.setWidth 32
    else BitVec.ofNat 32 (min n.toNat (c.inputBucket.length + sspReservedBufForTagLen))

def goesOn (c : Cursor) : Bool := c.inputData.isSome || c.needLastSubsample

def finishes (args : Args) (c : Cursor) : Bool := c.isLastSubsample && args.isFinishOp

def request (args : Args) (c : Cursor) : Builder Unit :=
  if c.finishes args then
    finishSubsample args.tokens c.inputBucket c.outputBucketLen args.signature args.confirmationToken
  else updateSubsample args.tokens c.inputBucket c.outputBucketLen

def consumedLen (args : Args) (c : Cursor) (reply : Message) : U32 :=
  if c.finishes args then reply.len .finishInputConsumed else reply.len .updateInputConsumed

def resultLen (args : Args) (c : Cursor) (reply : Message) : U32 :=
  if c.finishes args then reply.len .finishOutputResult else reply.len .updateOutputResult

def advance (c : Cursor) (consumed result : U32) : Cursor where
  inputData := c.inputData.bind fun bytes => if bytes.length ≤ consumed.toNat then none else some
    (bytes.drop consumed.toNat)
  output := c.output.map fun n => n - result.setWidth 64
  needLastSubsample := false
  inputConsumedLen := c.inputConsumedLen + consumed
  outputResultLen := c.outputResultLen + result.toNat

end Cursor

def subsample (args : Args) (app : TrustedApp) : Procedure Loop KmErrorCode Unit := do
  let l ← Procedure.get
  let message ← Procedure.ofOption ((run (l.cursor.request args)).map fun (d, result) => result.map fun _ => d.message)
  let reply := app l.exchanges.length message
  Procedure.modify fun l => { l with exchanges := l.exchanges ++ [⟨message, reply⟩] }
  let reply ← Procedure.ofExcept (reply.elim (.error kmErrorSecureHwCommunicationFailed) .ok)
  Procedure.ofExcept (checkReply reply)
  Procedure.modify fun l =>
    { l with cursor := l.cursor.advance (l.cursor.consumedLen args reply) (l.cursor.resultLen args reply) }

def subsampleInputData (args : Args) (app : TrustedApp) : Nat → Procedure Loop KmErrorCode Unit
  | 0 => Procedure.ofOption none
  | fuel + 1 => do
    let l ← Procedure.get
    if l.cursor.goesOn then do
      subsample args app
      subsampleInputData args app fuel
    else pure ()

/-- The last subsample is needed even though there are no input data, if the operation is finished. -/
def start (args : Args) (input : List Byte) (output : Option U64) (consumed : U32) (produced : Nat) : Loop :=
  ⟨⟨if input = [] then none else some input, output, args.isFinishOp, consumed, produced⟩, []⟩

/-- The message is the same up to one buffer, which holds all of its source if the length says so. -/
structure Copied (len : Len) (source : List Byte) (m m' : Message) : Prop where
  sameCommand : m'.command = m.command
  sameLens : m'.len = m.len
  others : ∀ other, other ≠ len → m'.contents (.of other) = m.contents (.of other)
  contents : (m.len len).toNat = source.length → m.contents (.of len) = [] → m'.contents (.of len) = source

theorem leads_copyPositive (len : Len) (source : List Byte) (d : Draft) :
    (copyPositive len source).Leads d (fun _ d' => Copied len source d.message d'.message) fun _ => True := by
  refine .bind (leads_get ?_)
  split_ifs with hpos
  · refine .bind (leads_get (leads_modify ⟨rfl, rfl, fun other hother => ?_, fun hlen _ => ?_⟩))
    · exact if_neg fun hsame => hother (Field.of.inj hsame)
    · show (if Field.of len = .of len then _ else _) = source
      rw [if_pos rfl, hlen, List.take_length]
  · refine Procedure.leads_pure ⟨rfl, rfl, fun _ _ => rfl, fun hlen hempty => ?_⟩
    rw [hempty, List.length_eq_zero_iff.mp (hlen.symm.trans (Nat.eq_zero_of_not_pos hpos))]

def chunkLen : Option Command → Len
  | some .finish => .finishInput
  | _ => .updateInput

structure Holds (command : Command) (chunk : List Byte) (m : Message) : Prop where
  isCommand : m.command = some command
  valid : validateIpcReqMessage m = .ok ()
  len : (m.len (chunkLen (some command))).toNat = chunk.length
  contents : m.contents (.of (chunkLen (some command))) = chunk

theorem validateIpcReqMessage_congr {m m' : Message} (hcmd : m'.command = m.command) (hlen : m'.len = m.len) :
    validateIpcReqMessage m' = validateIpcReqMessage m := by
  obtain ⟨command, errcode, len, contents⟩ := m
  obtain ⟨command', errcode', len', contents'⟩ := m'
  cases hcmd
  cases hlen
  cases command with
  | none => rfl
  | some command => cases command <;> rfl

variable {chunk : List Byte}

theorem toNat_length (h : chunk.length ≤ sspDataSubsampleSize) :
    (BitVec.ofNat 32 chunk.length).toNat = chunk.length := by
  rw [sspDataSubsampleSize] at h
  rw [BitVec.toNat_ofNat]
  exact Nat.mod_eq_of_lt (by omega)

theorem leads_updateSubsample (tokens : Tokens) (outputLen : U32)
    (hchunk : chunk.length ≤ sspDataSubsampleSize) (d : Draft) :
    (updateSubsample tokens chunk outputLen).Leads d (fun _ d' => Holds .update chunk d'.message) fun _ => True := by
  iterate 4 refine .bind (leads_modify ?_)
  refine .bind ((leads_copyTokens tokens _).mono (fun _ d' hsame => ?_) fun _ _ => trivial)
  refine .bind (.bind (leads_get (Procedure.leads_ofExcept (fun _ hvalid => ?_) trivial)))
  refine (leads_copyPositive _ _ d').mono (fun _ d'' hcopied => ?_) fun _ _ => trivial
  have hlen : (d'.message.len .updateInput).toNat = chunk.length := by
    rw [hsame.len]
    exact toNat_length hchunk
  refine ⟨hcopied.sameCommand.trans hsame.command, ?_, ?_, hcopied.contents hlen (hsame.contents .updateInput)⟩
  · exact (validateIpcReqMessage_congr hcopied.sameCommand hcopied.sameLens).trans hvalid
  · rw [hcopied.sameLens]
    exact hlen

theorem leads_finishSubsample (tokens : Tokens) (outputLen : U32)
    (signature confirmationToken : Option (List Byte)) (hchunk : chunk.length ≤ sspDataSubsampleSize) (d : Draft) :
    (finishSubsample tokens chunk outputLen signature confirmationToken).Leads d
      (fun _ d' => Holds .finish chunk d'.message) fun _ => True := by
  iterate 7 refine .bind (leads_modify ?_)
  refine .bind ((leads_copyTokens tokens _).mono (fun _ d' hsame => ?_) fun _ _ => trivial)
  refine .bind (.bind (leads_get (Procedure.leads_ofExcept (fun _ hvalid => ?_) trivial)))
  refine .bind ((leads_copyPositive _ _ d').mono (fun _ d₁ hinput => ?_) fun _ _ => trivial)
  refine .bind ((leads_copyPositive _ _ d₁).mono (fun _ d₂ hsignature => ?_) fun _ _ => trivial)
  refine (leads_copyPositive _ _ d₂).mono (fun _ d₃ htoken => ?_) fun _ _ => trivial
  have hlen : (d'.message.len .finishInput).toNat = chunk.length := by
    rw [hsame.len]
    exact toNat_length hchunk
  have hcommands : d₃.message.command = d'.message.command :=
    htoken.sameCommand.trans (hsignature.sameCommand.trans hinput.sameCommand)
  have hlens : d₃.message.len = d'.message.len := htoken.sameLens.trans (hsignature.sameLens.trans hinput.sameLens)
  refine ⟨hcommands.trans hsame.command, (validateIpcReqMessage_congr hcommands hlens).trans hvalid, ?_, ?_⟩
  · rw [hlens]
    exact hlen
  · calc
      d₃.message.contents (.of .finishInput) = d₂.message.contents (.of .finishInput) := htoken.others _ (by decide)
      _ = d₁.message.contents (.of .finishInput) := hsignature.others _ (by decide)
      _ = chunk := hinput.contents hlen (hsame.contents .finishInput)

def Cursor.command (args : Args) (c : Cursor) : Command := if c.finishes args then .finish else .update

theorem length_inputBucket (c : Cursor) : c.inputBucket.length ≤ sspDataSubsampleSize := by
  rw [Cursor.inputBucket]
  split
  · exact Nat.zero_le _
  · exact List.length_take_le _ _

variable (args : Args)

theorem leads_request (c : Cursor) (d : Draft) :
    (c.request args).Leads d (fun _ d' => Holds (c.command args) c.inputBucket d'.message) fun _ => True := by
  rw [Cursor.request, Cursor.command]
  split_ifs
  · exact leads_finishSubsample _ _ _ _ (length_inputBucket c) d
  · exact leads_updateSubsample _ _ (length_inputBucket c) d

theorem total_request (c : Cursor) : (c.request args).Total := by
  rw [Cursor.request]
  split_ifs
  · exact total_finishSubsample _ _ _ _ _
  · exact total_updateSubsample _ _ _

theorem request_cases (c : Cursor) : (∃ d e, run (c.request args) = some (d, .error e)) ∨
      ∃ d, run (c.request args) = some (d, .ok ()) ∧ Holds (c.command args) c.inputBucket d.message := by
  obtain ⟨d, result, hrun⟩ := total_request args c ⟨Message.zero, []⟩
  cases result with
  | error e => exact .inl ⟨d, e, hrun⟩
  | ok _ => exact .inr ⟨d, hrun, (leads_request args c _).of_eq_ok hrun⟩

section
variable {args : Args} {app : TrustedApp} {l : Loop} {d : Draft} {e : KmErrorCode}

theorem subsample_of_refused (h : run (l.cursor.request args) = some (d, .error e)) :
    subsample args app l = some (l, .error e) := by
  simp only [subsample, Procedure.get, Bind.bind, h, Procedure.ofOption, Option.map_some, Except.map]

theorem subsample_of_accepted {reply : Message} (h : run (l.cursor.request args) = some (d, .ok ()))
    (happ : app l.exchanges.length d.message = some reply) (hacc : checkReply reply = .ok ()) :
    subsample args app l = some (⟨l.cursor.advance (l.cursor.consumedLen args reply) (l.cursor.resultLen args reply),
      l.exchanges ++ [⟨d.message, some reply⟩]⟩, .ok ()) := by
  simp only [subsample, Procedure.get, Bind.bind, h, Procedure.ofOption, Option.map_some, Except.map, Procedure.modify,
    happ, Option.elim, Procedure.ofExcept, hacc]

theorem subsampleInputData_of_done (h : l.cursor.goesOn = false) (fuel : Nat) :
    subsampleInputData args app (fuel + 1) l = some (l, .ok ()) := by
  show (if l.cursor.goesOn = true then _ else pure () : Procedure Loop KmErrorCode Unit) l = some (l, .ok ())
  rw [h]
  rfl

theorem subsampleInputData_of_goesOn (h : l.cursor.goesOn) (fuel : Nat) :
    subsampleInputData args app (fuel + 1) l = (subsample args app >>= fun _ => subsampleInputData args app fuel)
      l := by
  show (if l.cursor.goesOn = true then _ else pure () : Procedure Loop KmErrorCode Unit) l = _
  rw [h]
  rfl

theorem subsampleInputData_of_error {l' : Loop} (hgoesOn : l.cursor.goesOn)
    (h : subsample args app l = some (l', .error e)) (fuel : Nat) :
    subsampleInputData args app (fuel + 1) l = some (l', .error e) := by
  rw [subsampleInputData_of_goesOn hgoesOn]
  simp only [Bind.bind, h]

theorem subsampleInputData_of_ok {l' : Loop} (hgoesOn : l.cursor.goesOn) (h : subsample args app l = some (l', .ok ()))
    (fuel : Nat) : subsampleInputData args app (fuel + 1) l = subsampleInputData args app fuel l' := by
  rw [subsampleInputData_of_goesOn hgoesOn]
  simp only [Bind.bind, h]

end

end ExynosHal.Strongbox.Subsample
