import ExynosHal.Strongbox.Subsample

/-! # Replies that consume nothing

`validate_ipc_resp_message` bounds the length that a reply gives for the consumed input, from above only.
-/

namespace ExynosHal.Strongbox.Stalls
open Library Library.BitString Ipc Requests Subsample
open Operation (KmErrorCode)

def ofReplies (replies : Nat → Message) : TrustedApp := fun i _ => some (replies i)

def Accepted (replies : Nat → Message) : Prop := ∀ i, checkReply (replies i) = .ok ()

def Ends (args : Args) (app : TrustedApp) (l : Loop) : Prop :=
  ∃ fuel l' result, subsampleInputData args app fuel l = some (l', result)

section
variable {args : Args} {app : TrustedApp} {l : Loop}

theorem ends_of_done (h : l.cursor.goesOn = false) : Ends args app l :=
  ⟨1, l, .ok (), subsampleInputData_of_done h 0⟩

theorem ends_of_next {l l' : Loop} (hgoesOn : l.cursor.goesOn) (h : subsample args app l = some (l', .ok ()))
    (hends : Ends args app l') : Ends args app l := by
  obtain ⟨fuel, l'', result, hrun⟩ := hends
  exact ⟨fuel + 1, l'', result, (subsampleInputData_of_ok hgoesOn h fuel).trans hrun⟩

def Answers (app : TrustedApp) : Prop := ∀ i request, ∃ reply, app i request = some reply ∧ checkReply reply = .ok ()

theorem answers_ofReplies {replies : Nat → Message} (h : Accepted replies) : Answers (ofReplies replies) :=
  fun i _ => ⟨replies i, rfl, h i⟩

theorem ends_of_round (happ : Answers app) (hgoesOn : l.cursor.goesOn)
    (h : ∀ d reply exchanges, Holds (l.cursor.command args) l.cursor.inputBucket d → app l.exchanges.length d =
      some reply →
      Ends args app ⟨l.cursor.advance (l.cursor.consumedLen args reply) (l.cursor.resultLen args reply), exchanges⟩) :
    Ends args app l := by
  rcases request_cases args l.cursor with ⟨d, e, hrefused⟩ | ⟨d, hreq, hholds⟩
  · exact ⟨1, l, .error e, subsampleInputData_of_error hgoesOn (subsample_of_refused hrefused) 0⟩
  · obtain ⟨reply, hreply, hacc⟩ := happ l.exchanges.length d.message
    exact ends_of_next hgoesOn (subsample_of_accepted hreq hreply hacc) (h _ _ _ hholds hreply)

theorem ends_of_none (happ : Answers app) (h : l.cursor.inputData = none) : Ends args app l := by
  cases hgoesOn : l.cursor.goesOn with
  | false => exact ends_of_done hgoesOn
  | true =>
    refine ends_of_round happ hgoesOn fun _ _ _ _ _ => ends_of_done ?_
    rw [Cursor.goesOn, Cursor.advance, h]
    rfl

def Progress (app : TrustedApp) : Prop := ∀ i request reply, app i request = some reply →
    (request.command = some .update → 0 < (reply.len .updateInputConsumed).toNat) ∧
    (request.command = some .finish → 0 < (reply.len .finishInputConsumed).toNat)

theorem ends_of_progress (happ : Answers app) (hprogress : Progress app) (l : Loop) : Ends args app l := by
  induction hn : (l.cursor.inputData.getD []).length using Nat.strong_induction_on generalizing l with
  | _ n ih =>
    cases hdata : l.cursor.inputData with
    | none => exact ends_of_none happ hdata
    | some bytes =>
      have hgoesOn : l.cursor.goesOn := by
        rw [Cursor.goesOn, hdata]
        rfl
      refine ends_of_round happ hgoesOn fun request reply exchanges hholds hreply => ?_
      have hpos : 0 < (l.cursor.consumedLen args reply).toNat := by
        have hcmd := hholds.isCommand
        rw [Cursor.command] at hcmd
        rw [Cursor.consumedLen]
        split_ifs at hcmd ⊢
        · exact (hprogress _ _ _ hreply).2 hcmd
        · exact (hprogress _ _ _ hreply).1 hcmd
      generalize l.cursor.consumedLen args reply = consumed at hpos
      generalize l.cursor.resultLen args reply = result
      rcases Nat.lt_or_ge consumed.toNat bytes.length with hleft | hall
      · refine ih (bytes.length - consumed.toNat) ?_ _ ?_
        · rw [hdata, Option.getD_some] at hn
          omega
        · rw [Cursor.advance, hdata, Option.bind_some, if_neg (Nat.not_le.mpr hleft), Option.getD_some,
            List.length_drop]
      · refine ends_of_none happ ?_
        rw [Cursor.advance, hdata, Option.bind_some, if_pos hall]

end

def idleReply (finishes : Bool) : Message := ⟨some (if finishes then .finish else .update), 0, fun _ => 0, fun _ => []⟩

theorem accepted_idleReply (finishes : Bool) : Accepted fun _ => idleReply finishes := by
  cases finishes <;> exact fun _ => rfl

theorem request_congr {args : Args} {c c' : Cursor} (hinput : c'.inputData = c.inputData)
    (houtput : c'.output = c.output) : c'.request args = c.request args := by
  obtain ⟨inputData, output, need, consumed, produced⟩ := c
  obtain ⟨inputData', output', need', consumed', produced'⟩ := c'
  cases hinput
  cases houtput
  rfl

theorem inputData_advance_zero {c : Cursor} {bytes : List Byte} (hdata : c.inputData = some bytes)
    (hbytes : bytes ≠ []) : (c.advance 0 0).inputData = c.inputData := by
  have hpos : ¬ bytes.length ≤ BitVec.toNat (0 : U32) := Nat.not_le.mpr (List.length_pos_iff.mpr hbytes)
  rw [Cursor.advance, hdata, Option.bind_some, if_neg hpos]
  rfl

theorem output_advance_zero (c : Cursor) : (c.advance 0 0).output = c.output := by
  rw [Cursor.advance]
  cases c.output with
  | none => rfl
  | some n => exact congrArg some (BitVec.sub_zero n)

theorem stalls {args : Args} {bytes : List Byte} {d : Draft} {finishes : Bool} (hdata : l.cursor.inputData = some bytes)
    (hbytes : bytes ≠ []) (hreq : run (l.cursor.request args) = some (d, .ok ())) :
    ¬ Ends args (ofReplies fun _ => idleReply finishes) l := by
  rintro ⟨fuel, l', result, hrun⟩
  induction fuel generalizing l with
  | zero => cases hrun
  | succ fuel ih =>
    have hgoesOn : l.cursor.goesOn := by
      rw [Cursor.goesOn, hdata]
      rfl
    have hround := @subsample_of_accepted args (ofReplies fun _ => idleReply finishes) l d _ hreq rfl
      (accepted_idleReply _ 0)
    have hcons : l.cursor.consumedLen args (idleReply finishes) = 0 := ite_self _
    have hres : l.cursor.resultLen args (idleReply finishes) = 0 := ite_self _
    rw [hcons, hres] at hround
    rw [subsampleInputData_of_ok hgoesOn hround] at hrun
    have hsame := inputData_advance_zero hdata hbytes
    refine ih (hsame.trans hdata) ?_ hrun
    rw [← hreq]
    exact congrArg run (request_congr hsame (output_advance_zero l.cursor))

/-- Whatever is replied, the loop ends exactly if there is no input or already the first request is refused. It ends in
every run in which all answers say that something was consumed. -/
theorem ends_iff (args : Args) (input : List Byte) (output : Option U64) (consumed : U32) (produced : Nat) :
    ((∀ replies, Accepted replies → Ends args (ofReplies replies) (start args input output consumed produced)) ↔
      input = [] ∨ ∃ d e, run ((start args input output consumed produced).cursor.request args) = some (d, .error e)) ∧
      ∀ app, Answers app → Progress app → Ends args app (start args input output consumed produced) := by
  refine ⟨⟨fun h => ?_, ?_⟩, fun app happ hprogress => ends_of_progress happ hprogress _⟩
  · by_contra hnot
    obtain ⟨hinput, hsent⟩ := not_or.mp hnot
    rcases request_cases args (start args input output consumed produced).cursor with hrefused | ⟨d, hreq, -⟩
    · exact hsent hrefused
    · have hidle := accepted_idleReply ((start args input output consumed produced).cursor.finishes args)
      exact stalls (if_neg hinput) hinput hreq (h _ hidle)
  · rintro (rfl | ⟨d, e, hrefused⟩) replies hacc
    · exact ends_of_none (answers_ofReplies hacc) rfl
    · cases hgoesOn : (start args input output consumed produced).cursor.goesOn with
      | false => exact ends_of_done hgoesOn
      | true => exact ⟨1, _, .error e, subsampleInputData_of_error hgoesOn (subsample_of_refused hrefused) 0⟩

def oneByteArgs : Args := ⟨⟨none, none⟩, none, none, true⟩

theorem not_ends_idle : Accepted (fun _ => idleReply true) ∧
    ¬ Ends oneByteArgs (ofReplies fun _ => idleReply true) (start oneByteArgs [0] none 0 0) := by
  have hreq : ∃ d, run ((start oneByteArgs [0] none 0 0).cursor.request oneByteArgs) = some (d, .ok ()) := ⟨_, rfl⟩
  obtain ⟨d, hreq⟩ := hreq
  exact ⟨accepted_idleReply true, stalls rfl (List.cons_ne_nil _ _) hreq⟩

end ExynosHal.Strongbox.Stalls
