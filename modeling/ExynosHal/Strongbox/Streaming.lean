import ExynosHal.Strongbox.Subsample

/-! # What is streamed

With a trusted application that consumes what it gets, the commands of `subsample_input_data` tile the input.
-/

namespace ExynosHal.Strongbox.Streaming
open Library Library.BitString Ipc Requests Subsample
open Operation (KmErrorCode sspDataSubsampleSize)
open List (forall_mem_cons length_drop map_cons map_singleton)
open BitVec (ofNat)

structure Sent where
  command : Option Command
  chunk : List Byte

def sent (e : Exchange) : Sent := ⟨e.request.command, e.request.contents (.of (chunkLen e.request.command))⟩

def resultLen (e : Exchange) : Nat :=
  match e.reply with
  | none => 0
  | some reply =>
    (reply.len (if e.request.command = some .finish then .finishOutputResult else .updateOutputResult)).toNat

def Consumes (app : TrustedApp) : Prop :=
  ∀ i request, validateIpcReqMessage request = .ok () → ∃ reply, app i request = some reply ∧ checkReply reply =
    .ok () ∧ (request.command = some .update → reply.len .updateInputConsumed = request.len .updateInput) ∧
    (request.command = some .finish → reply.len .finishInputConsumed = request.len .finishInput)

/-- Full subsamples, then the last one. -/
inductive Tiles (isFinishOp : Bool) : List Byte → List Sent → Prop where
  | last {bytes : List Byte} (hlast : bytes.length ≤ sspDataSubsampleSize) :
      Tiles isFinishOp bytes [⟨some (if isFinishOp then .finish else .update), bytes⟩]
  | more {bytes : List Byte} {plan : List Sent} (hmore : sspDataSubsampleSize < bytes.length)
      (hrest : Tiles isFinishOp (bytes.drop sspDataSubsampleSize) plan) :
      Tiles isFinishOp bytes (⟨some .update, bytes.take sspDataSubsampleSize⟩ :: plan)

namespace Tiles

theorem exists_tiles (isFinishOp : Bool) (bytes : List Byte) : ∃ plan, Tiles isFinishOp bytes plan := by
  induction hn : bytes.length using Nat.strong_induction_on generalizing bytes with
  | _ n ih =>
    rcases Nat.lt_or_ge sspDataSubsampleSize bytes.length with hmore | hlast
    · have hshorter : (bytes.drop sspDataSubsampleSize).length < n := by
        rw [length_drop, ← hn]
        rw [sspDataSubsampleSize] at hmore ⊢
        omega
      obtain ⟨plan, hplan⟩ := ih _ hshorter _ rfl
      exact ⟨_, .more hmore hplan⟩
    · exact ⟨_, .last hlast⟩

variable {isFinishOp : Bool} {bytes : List Byte} {plan : List Sent}

variable (h : Tiles isFinishOp bytes plan)
include h

theorem flatten : (plan.map Sent.chunk).flatten = bytes := by
  induction h with
  | last hlast => exact List.append_nil _
  | more hmore hrest ih =>
    rw [map_cons, List.flatten_cons, ih]
    exact List.take_append_drop _ _

theorem length_chunk : ∀ s ∈ plan, s.chunk.length ≤ sspDataSubsampleSize := by
  induction h with
  | last hlast => exact List.forall_mem_singleton.mpr hlast
  | more hmore hrest ih => exact forall_mem_cons.mpr ⟨List.length_take_le _ _, ih⟩

theorem commands : plan.map Sent.command = List.replicate ((bytes.length + 4095) / 4096 - 1) (some .update) ++
      [some (if isFinishOp then .finish else .update)] := by
  induction h with
  | @last bytes hlast =>
    rw [sspDataSubsampleSize] at hlast
    have hzero : (bytes.length + 4095) / 4096 - 1 = 0 := by omega
    rw [hzero]
    rfl
  | @more bytes plan hmore hrest ih =>
    rw [sspDataSubsampleSize] at hmore
    have hcnt : (bytes.length + 4095) / 4096 - 1 = ((bytes.length - 4096) + 4095) / 4096 - 1 + 1 := by omega
    rw [map_cons, ih, length_drop, hcnt, List.replicate_succ, List.cons_append]
    rfl

end Tiles

section
variable {args : Args} {app : TrustedApp}

theorem subsample_cases (happ : Consumes app) (l : Loop) :
    (∃ d e, run (l.cursor.request args) = some (d, .error e) ∧ subsample args app l = some (l, .error e)) ∨
      ∃ e consumed result, subsample args app l = some (⟨l.cursor.advance consumed result, l.exchanges ++ [e]⟩,
      .ok ()) ∧
        sent e = ⟨some (l.cursor.command args), l.cursor.inputBucket⟩ ∧ consumed.toNat = l.cursor.inputBucket.length ∧
        result.toNat = resultLen e := by
  rcases request_cases args l.cursor with ⟨d, e, hrefused⟩ | ⟨d, hreq, hholds⟩
  · exact .inl ⟨d, e, hrefused, subsample_of_refused hrefused⟩
  obtain ⟨reply, hreply, hacc, hupdate, hfinish⟩ := happ l.exchanges.length d.message hholds.valid
  refine .inr ⟨⟨d.message, some reply⟩, _, _, subsample_of_accepted hreq hreply hacc, ?_, ?_, ?_⟩
  · rw [sent, hholds.isCommand, hholds.contents]
  · rw [← hholds.len, Cursor.consumedLen]
    have hcmd := hholds.isCommand
    rw [Cursor.command] at hcmd ⊢
    split_ifs at hcmd ⊢
    · rw [hfinish hcmd]
      rfl
    · rw [hupdate hcmd]
      rfl
  · rw [resultLen, hholds.isCommand, Cursor.command, Cursor.resultLen]
    cases l.cursor.finishes args <;> rfl

structure Streams (args : Args) (bytes : List Byte) (plan : List Sent) (l l' : Loop)
    (result : Except KmErrorCode Unit) : Prop where
  part : ∃ exchanges, l'.exchanges = l.exchanges ++ exchanges ∧ exchanges.map sent <+: plan ∧
    (result = .ok () → exchanges.map sent = plan ∧
      l'.cursor.inputConsumedLen = l.cursor.inputConsumedLen + ofNat 32 bytes.length ∧
      l'.cursor.outputResultLen = l.cursor.outputResultLen + (exchanges.map resultLen).sum)
  refused : ∀ e, result = .error e → ∃ d, run (l'.cursor.request args) = some (d, .error e)
  output : l.cursor.output = none → l'.cursor.output = none

variable {bytes : List Byte} {plan : List Sent}

theorem Streams.of_refused {l : Loop} {d : Draft} {e : KmErrorCode}
    (h : run (l.cursor.request args) = some (d, .error e)) : Streams args bytes plan l l (.error e) := by
  refine ⟨⟨[], (List.append_nil _).symm, List.nil_prefix, nofun⟩, fun e' he => ?_, id⟩
  cases he
  exact ⟨d, h⟩

theorem run_last (happ : Consumes app) (hlast : bytes.length ≤ sspDataSubsampleSize) (l : Loop)
    (hgoesOn : l.cursor.goesOn) (hbytes : l.cursor.inputData.getD [] = bytes) :
    ∃ l' result, subsampleInputData args app 2 l = some (l', result) ∧
      Streams args bytes [⟨some (if args.isFinishOp then .finish else .update), bytes⟩] l l' result := by
  have hisLast : l.cursor.isLastSubsample := by
    rw [Cursor.isLastSubsample]
    cases hdata : l.cursor.inputData with
    | none => rfl
    | some data =>
      rw [hdata, Option.getD_some] at hbytes
      exact decide_eq_true (hbytes ▸ hlast)
  have hbucket : l.cursor.inputBucket = bytes := by
    rw [Cursor.inputBucket]
    cases hdata : l.cursor.inputData with
    | none =>
      rw [hdata] at hbytes
      exact hbytes
    | some data =>
      rw [hdata, Option.getD_some] at hbytes
      rw [hbytes]
      exact List.take_of_length_le hlast
  have hcmd : l.cursor.command args = if args.isFinishOp then .finish else .update := by
    rw [Cursor.command, Cursor.finishes, hisLast, Bool.true_and]
  rcases subsample_cases happ l with ⟨d, e, hrefused, hround⟩ | ⟨e, consumed, result, hround, hsent, hcons, hres⟩
  · exact ⟨l, .error e, subsampleInputData_of_error hgoesOn hround 1, .of_refused hrefused⟩
  rw [hcmd, hbucket] at hsent
  rw [hbucket] at hcons
  have hdone : (l.cursor.advance consumed result).goesOn = false := by
    rw [Cursor.goesOn, Cursor.advance]
    cases hdata : l.cursor.inputData with
    | none => rfl
    | some data =>
      rw [hdata, Option.getD_some] at hbytes
      rw [hbytes, Option.bind_some, if_pos hcons.ge]
      rfl
  have hnone : l.cursor.output = none → (l.cursor.advance consumed result).output = none := by
    intro hnone
    rw [Cursor.advance, hnone]
    rfl
  refine ⟨_, .ok (), (subsampleInputData_of_ok hgoesOn hround 1).trans (subsampleInputData_of_done hdone 0), ?_,
    fun e herr => (by cases herr), hnone⟩
  refine ⟨[e], rfl, ?_, fun _ => ⟨?_, ?_, ?_⟩⟩
  · rw [map_singleton, hsent]
  · rw [map_singleton, hsent]
  · rw [← hcons, BitVec.ofNat_toNat, BitVec.setWidth_eq]
    rfl
  · rw [map_singleton, List.sum_singleton, ← hres]
    rfl

theorem run_tiles (happ : Consumes app) (htiles : Tiles args.isFinishOp bytes plan)
    (l : Loop) (hgoesOn : l.cursor.goesOn) (hbytes : l.cursor.inputData.getD [] = bytes) :
    ∃ l' result, subsampleInputData args app (plan.length + 1) l = some (l', result) ∧
    Streams args bytes plan l l' result := by
  induction htiles generalizing l with
  | last hlast => exact run_last happ hlast l hgoesOn hbytes
  | @more bytes plan hmore hrest ih =>
    have hdata : l.cursor.inputData = some bytes := by
      cases hdata : l.cursor.inputData with
      | none =>
        rw [hdata, Option.getD_none] at hbytes
        rw [← hbytes] at hmore
        exact absurd hmore (Nat.not_lt_zero _)
      | some data =>
        rw [hdata] at hbytes
        exact congrArg some hbytes
    have hnotLast : l.cursor.isLastSubsample = false := by
      rw [Cursor.isLastSubsample, hdata]
      exact decide_eq_false (Nat.not_le.mpr hmore)
    have hbucket : l.cursor.inputBucket = bytes.take sspDataSubsampleSize := by
      rw [Cursor.inputBucket, hdata]
    have hcmd : l.cursor.command args = .update := by
      rw [Cursor.command, Cursor.finishes, hnotLast]
      rfl
    rcases subsample_cases happ l with ⟨d, e, hrefused, hround⟩ | ⟨e, consumed, result, hround, hsent, hcons, hres⟩
    · exact ⟨l, .error e, subsampleInputData_of_error hgoesOn hround _, .of_refused hrefused⟩
    rw [hcmd, hbucket] at hsent
    rw [hbucket, List.length_take, Nat.min_eq_left hmore.le] at hcons
    have hadv : (l.cursor.advance consumed result).inputData = some (bytes.drop sspDataSubsampleSize) := by
      rw [Cursor.advance, hdata, Option.bind_some, hcons, if_neg (Nat.not_le.mpr hmore)]
    have hnone : l.cursor.output = none → (l.cursor.advance consumed result).output = none := by
      intro hnone
      rw [Cursor.advance, hnone]
      rfl
    obtain ⟨l', final, hrun, ⟨exchanges, hexchanges, hprefix, hwell⟩, hrefused, houtput⟩ :=
      ih ⟨l.cursor.advance consumed result, l.exchanges ++ [e]⟩ (by rw [Cursor.goesOn, hadv]; rfl) (by rw [hadv]; rfl)
    refine ⟨l', final, (subsampleInputData_of_ok hgoesOn hround _).trans hrun, ⟨e :: exchanges, ?_, ?_, fun hok => ?_⟩,
      hrefused, fun hbefore => houtput (hnone hbefore)⟩
    · rw [hexchanges, List.append_assoc]
      rfl
    · rw [map_cons, hsent]
      exact (List.prefix_cons_inj _).mpr hprefix
    · obtain ⟨hall, hcnt, hsum⟩ := hwell hok
      refine ⟨?_, ?_, ?_⟩
      · rw [map_cons, hsent, hall]
      · have hsplit : ofNat 32 bytes.length = consumed + ofNat 32 (bytes.drop sspDataSubsampleSize).length := by
          have hsum : bytes.length = consumed.toNat + (bytes.drop sspDataSubsampleSize).length := by
            rw [length_drop, hcons]
            omega
          rw [hsum, BitVec.ofNat_add, BitVec.ofNat_toNat, BitVec.setWidth_eq]
        rw [hcnt, hsplit, ← BitVec.add_assoc]
        rfl
      · rw [hsum, map_cons, List.sum_cons, ← hres, ← Nat.add_assoc]
        rfl

theorem inputData_start (input : List Byte) (output : Option U64) (consumed : U32) (produced : Nat) :
    (start args input output consumed produced).cursor.inputData.getD [] = input := by
  show (if input = [] then none else some input).getD [] = input
  split_ifs with hempty
  · exact hempty.symm
  · rfl

def expectedCommands (isFinishOp : Bool) (n : Nat) : List (Option Command) :=
  if isFinishOp then List.replicate ((n + 4095) / 4096 - 1) (some .update) ++ [some .finish]
  else List.replicate ((n + 4095) / 4096) (some .update)

theorem Tiles.expected {isFinishOp : Bool} (h : Tiles isFinishOp bytes plan)
    (hsome : bytes ≠ [] ∨ isFinishOp) : plan.map Sent.command = expectedCommands isFinishOp bytes.length := by
  rw [h.commands, expectedCommands]
  cases isFinishOp with
  | true => rfl
  | false =>
    have hpos := List.length_pos_iff.mpr (hsome.resolve_right Bool.false_ne_true)
    have hcnt : (bytes.length + 4095) / 4096 = (bytes.length + 4095) / 4096 - 1 + 1 := by omega
    rw [if_neg Bool.false_ne_true, if_neg Bool.false_ne_true, hcnt, List.replicate_succ', Nat.add_sub_cancel]

theorem run_start (happ : Consumes app) (input : List Byte) (output : Option U64) (consumed : U32) (produced : Nat) :
    ∃ fuel l result plan, subsampleInputData args app fuel (start args input output consumed produced) =
      some (l, result) ∧ (plan.map Sent.chunk).flatten = input ∧ (∀ s ∈ plan, s.chunk.length ≤ 4096) ∧
      plan.map Sent.command = expectedCommands args.isFinishOp input.length ∧
      Streams args input plan (start args input output consumed produced) l result := by
  by_cases hnothing : input = [] ∧ args.isFinishOp = false
  · obtain ⟨rfl, hfinish⟩ := hnothing
    have hdone : (start args [] output consumed produced).cursor.goesOn = false := hfinish
    refine ⟨1, _, .ok (), [], subsampleInputData_of_done hdone 0, rfl, nofun, ?_, ⟨[], rfl, List.nil_prefix, ?_⟩, nofun,
      id⟩
    · rw [hfinish]
      rfl
    · exact fun _ => ⟨rfl, (BitVec.add_zero _).symm, rfl⟩
  · have hsome : input ≠ [] ∨ args.isFinishOp := by
      rcases not_and_or.mp hnothing with hinput | hfinish
      · exact .inl hinput
      · exact .inr (Bool.not_eq_false _ ▸ hfinish)
    have hgoesOn : (start args input output consumed produced).cursor.goesOn := by
      show ((if input = [] then none else some input).isSome || args.isFinishOp)
      rcases hsome with hinput | hfinish
      · rw [if_neg hinput]
        rfl
      · rw [hfinish, Bool.or_true]
    obtain ⟨plan, htiles⟩ := Tiles.exists_tiles args.isFinishOp input
    obtain ⟨l, result, hrun, hstreams⟩ :=
      run_tiles happ htiles _ hgoesOn (inputData_start input output consumed produced)
    exact ⟨_, l, result, plan, hrun, htiles.flatten, htiles.length_chunk, htiles.expected hsome, hstreams⟩

/-- The loop ends. What it has sent is a part of the tiling of the input: all of it, unless a request is refused. -/
theorem streams_input (happ : Consumes app) (input : List Byte) (output : Option U64) (consumed : U32)
    (produced : Nat) :
    ∃ fuel l result plan, subsampleInputData args app fuel (start args input output consumed produced) =
      some (l, result) ∧ (plan.map Sent.chunk).flatten = input ∧ (∀ s ∈ plan, s.chunk.length ≤ 4096) ∧
      plan.map Sent.command = expectedCommands args.isFinishOp input.length ∧ l.exchanges.map sent <+: plan ∧
      (result = .ok () → l.exchanges.map sent = plan ∧
        l.cursor.inputConsumedLen = consumed + ofNat 32 input.length ∧
        l.cursor.outputResultLen = produced + (l.exchanges.map resultLen).sum) ∧
      ∀ e, result = .error e → ∃ d, run (l.cursor.request args) = some (d, .error e) := by
  obtain ⟨fuel, l, result, plan, hrun, hflatten, hlen, hcommands, hstreams⟩ :=
    run_start happ input output consumed produced
  obtain ⟨exchanges, hexchanges, hprefix, hwell⟩ := hstreams.part
  have hall : l.exchanges = exchanges := hexchanges
  rw [← hall] at hprefix hwell
  exact ⟨fuel, l, result, plan, hrun, hflatten, hlen, hcommands, hprefix, hwell, hstreams.refused⟩

end

def echo : TrustedApp := fun _ request =>
  some ⟨request.command, 0, fun
    | .updateInputConsumed => request.len .updateInput
    | .finishInputConsumed => request.len .finishInput
    | _ => 0, fun _ => []⟩

theorem consumes_echo : Consumes echo := by
  intro i request hvalid
  refine ⟨_, rfl, ?_, fun _ => rfl, fun _ => rfl⟩
  cases hcmd : request.command with
  | none =>
    rw [validateIpcReqMessage, hcmd] at hvalid
    cases hvalid
  | some command =>
    cases command
    case update =>
      have hlen := (validate_iff hcmd (by decide)).mp hvalid .updateInput (by decide)
      refine check_eq_ok_iff.mpr (forall_mem_cons.mpr ⟨Nat.zero_le _, forall_mem_cons.mpr ⟨Nat.zero_le _, ?_⟩⟩)
      exact List.forall_mem_singleton.mpr hlen
    case finish =>
      have hlen := (validate_iff hcmd (by decide)).mp hvalid .finishInput (by decide)
      refine check_eq_ok_iff.mpr (forall_mem_cons.mpr ⟨Nat.zero_le _, forall_mem_cons.mpr ⟨Nat.zero_le _, ?_⟩⟩)
      exact List.forall_mem_singleton.mpr hlen
    all_goals rfl

def plainArgs : Args := ⟨⟨none, none⟩, none, none, false⟩

theorem streams_input_finishing : let args := { plainArgs with isFinishOp := true }
    let input : List Byte := List.replicate 5000 7
    Consumes echo ∧ ∃ fuel l result plan, subsampleInputData args echo fuel (start args input none 0 0) =
      some (l, result) ∧ (plan.map Sent.chunk).flatten = input ∧ (∀ s ∈ plan, s.chunk.length ≤ 4096) ∧
      plan.map Sent.command = expectedCommands true input.length ∧ l.exchanges.map sent <+: plan ∧
      (result = .ok () → l.exchanges.map sent = plan ∧ l.cursor.inputConsumedLen = 0 + ofNat 32 input.length ∧
        l.cursor.outputResultLen = 0 + (l.exchanges.map resultLen).sum) ∧
      ∀ e, result = .error e → ∃ d, run (l.cursor.request args) = some (d, .error e) :=
  ⟨consumes_echo, streams_input consumes_echo _ none 0 0⟩

theorem request_plainArgs {c : Cursor} (h : c.output = none) : ∃ d, run (c.request plainArgs) = some (d, .ok ()) := by
  have hreq : c.request plainArgs = updateSubsample ⟨none, none⟩ c.inputBucket 0 := by
    rw [Cursor.request, Cursor.finishes, Cursor.outputBucketLen, h]
    exact if_neg (by rw [Bool.and_comm]; exact Bool.false_ne_true)
  rw [hreq]
  have hbucket : (ofNat 32 c.inputBucket.length).toNat ≤ Operation.inputSize := by
    have hlen := length_inputBucket c
    rw [toNat_length hlen]
    exact hlen.trans (by decide)
  have hfilled : ∃ d : Draft, run (updateSubsample ⟨none, none⟩ c.inputBucket 0) =
      (validate >>= fun _ => copyPositive .updateInput c.inputBucket) d ∧ d.message.command = some .update ∧
      d.message.len .updateInput = ofNat 32 c.inputBucket.length ∧ d.message.len .updateInParams = 0 ∧
      d.message.len .updateOutput = 0 ∧ d.message.len .updateOutputResult = 0 := ⟨_, rfl, rfl, rfl, rfl, rfl, rfl⟩
  obtain ⟨d, hrun, hcmd, hinput, hparams, houtput, hres⟩ := hfilled
  have hvalid : validateIpcReqMessage d.message = .ok () := by
    refine (validate_iff hcmd (by decide)).mpr (forall_mem_cons.mpr ⟨?_, forall_mem_cons.mpr ⟨?_,
      forall_mem_cons.mpr ⟨?_, List.forall_mem_singleton.mpr ?_⟩⟩⟩)
    · rw [hparams]
      exact Nat.zero_le _
    · rw [hinput]
      exact hbucket
    · rw [houtput]
      exact Nat.zero_le _
    · rw [hres]
      exact Nat.zero_le _
  obtain ⟨d', hcopied⟩ := copyPositive_ok .updateInput c.inputBucket d
  exact ⟨d', by rw [hrun, validate_bind_of_ok hvalid, hcopied]⟩

structure SendsAll (args : Args) (input : List Byte) (consumed : U32) (produced : Nat) (l : Loop)
    (result : Except KmErrorCode Unit) : Prop where
  flatten : ((l.exchanges.map sent).map Sent.chunk).flatten = input
  length_chunk : ∀ s ∈ l.exchanges.map sent, s.chunk.length ≤ 4096
  commands : (l.exchanges.map sent).map Sent.command = expectedCommands args.isFinishOp input.length
  counters : result = .ok () → l.cursor.inputConsumedLen.toNat = consumed.toNat + input.length ∧
    l.cursor.outputResultLen = produced + (l.exchanges.map resultLen).sum

def shortMacArgs : Args := ⟨⟨some [0, 0, 0, 0, 0], none⟩, none, none, false⟩

/-- With a token that is too short nothing is sent. After 4 GiB the counter of the input is where it was. -/
theorem not_sendsAll : Consumes echo ∧
    (∃ fuel l result, subsampleInputData shortMacArgs echo fuel (start shortMacArgs [0] none 0 0) = some (l, result) ∧
      ¬ SendsAll shortMacArgs [0] 0 0 l result) ∧
    ∃ fuel l result,
      subsampleInputData plainArgs echo fuel (start plainArgs (List.replicate (2 ^ 32) 0) none 0 0) = some (l, result) ∧
      ¬ SendsAll plainArgs (List.replicate (2 ^ 32) 0) 0 0 l result := by
  refine ⟨consumes_echo, ⟨1, start shortMacArgs [0] none 0 0, .error (-38), rfl, fun h => ?_⟩, ?_⟩
  · exact absurd h.flatten.symm (List.cons_ne_nil _ _)
  · obtain ⟨fuel, l, result, plan, hrun, -, -, -, hstreams⟩ :=
      @run_start plainArgs echo consumes_echo (List.replicate (2 ^ 32) 0) none 0 0
    refine ⟨fuel, l, result, hrun, fun h => ?_⟩
    have hok : result = .ok () := by
      cases hres : result with
      | error e =>
        obtain ⟨d, hrefused⟩ := hstreams.refused e hres
        obtain ⟨d', hacc⟩ := request_plainArgs (hstreams.output rfl)
        rw [hacc] at hrefused
        cases hrefused
      | ok _ => rfl
    obtain ⟨exchanges, -, -, hwell⟩ := hstreams.part
    have hcounter := (h.counters hok).1
    rw [(hwell hok).2.1, List.length_replicate] at hcounter
    exact absurd hcounter (by decide)

end ExynosHal.Strongbox.Streaming
