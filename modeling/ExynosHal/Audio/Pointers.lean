import ExynosHal.Audio.Kept

/-! # The pointers to important streams

`primary_output`, `fast_output`, `compress_output` and `active_input` point to streams that are in their lists.
-/

namespace ExynosHal.Audio
open Library.Run
open Function (update update_self)

structure PointersOk (s : State) : Prop where
  primaryOutput : ∀ a ∈ s.primaryOutput, a ∈ s.playbackList
  fastOutput : ∀ a ∈ s.fastOutput, a ∈ s.playbackList
  compressOutput : ∀ a ∈ s.compressOutput, a ∈ s.playbackList
  activeInput : ∀ a ∈ s.activeInput, a ∈ s.captureList
  playback : ∀ a, (s.outs a).isSome → s.playbackList.count a = 1
  capture : ∀ a, (s.ins a).isSome → s.captureList.count a = 1

def State.pointers (s : State) :=
  (s.primaryOutput, s.fastOutput, s.compressOutput, s.activeInput, s.playbackList, s.captureList)

def FailedOpenKeeps (b : Build) (s : State) : Op × Env → Prop
  | (.openOutput a devices flags, env) =>
    ∀ s', s.openOutput b env a devices flags = some s' → s'.outs a = none → s'.pointers = s.pointers
  | (.openInput a devices flags source sampleRate, env) =>
    ∀ s', s.openInput b env a devices flags source sampleRate = some s' → s'.ins a = none → s'.pointers = s.pointers
  | _ => True

def PointersSafe (b : Build) (s : State) : Op × Env → Prop
  | (.openOutput _ devices flags, env) =>
    env.createOk ∨
      ((outputKind b flags devices).map Prod.fst = some .playbackComprOffload → s.compressOutput.isSome) ∧
      ((outputKind b flags devices).map Prod.fst = some .playbackFast → s.fastOutput = none)
  | (.closeInput a, _) => s.activeInput = some a → (s.ins a).any (fun input => input.streamStatus != .standby) = true
  | _ => True

structure Listed (s : State) : Prop where
  primaryOutput : ∀ a ∈ s.primaryOutput, a ∈ s.playbackList
  fastOutput : ∀ a ∈ s.fastOutput, a ∈ s.playbackList
  compressOutput : ∀ a ∈ s.compressOutput, a ∈ s.playbackList
  activeInput : ∀ a ∈ s.activeInput, a ∈ s.captureList
  playback : ∀ a, a ∈ s.playbackList ↔ (s.outs a).isSome
  capture : ∀ a, a ∈ s.captureList ↔ (s.ins a).isSome
  playbackNodup : s.playbackList.Nodup
  captureNodup : s.captureList.Nodup

section
variable {b : Build} {env : Env} {s s' : State} {a : Addr}

theorem Listed.pointersOk (h : Listed s) : PointersOk s where
  primaryOutput := h.primaryOutput
  fastOutput := h.fastOutput
  compressOutput := h.compressOutput
  activeInput := h.activeInput
  playback a ha := List.count_eq_one_of_mem h.playbackNodup ((h.playback a).mpr ha)
  capture a ha := List.count_eq_one_of_mem h.captureNodup ((h.capture a).mpr ha)

theorem Listed.kept (h : Listed s) (hs : Kept b s s') : Listed s' where
  primaryOutput := by
    rw [hs.primaryOutput, hs.playbackList]
    exact h.primaryOutput
  fastOutput := by
    rw [hs.fastOutput, hs.playbackList]
    exact h.fastOutput
  compressOutput := by
    rw [hs.compressOutput, hs.playbackList]
    exact h.compressOutput
  activeInput := by
    rw [hs.captureList]
    rcases hs.activeInput with hsame | hlive
    · rw [hsame]
      exact h.activeInput
    · exact fun p hp => (h.capture p).mpr (hlive p hp)
  playback p := by
    rw [hs.playbackList, hs.outs]
    exact h.playback p
  capture p := by
    rw [hs.captureList, hs.ins]
    exact h.capture p
  playbackNodup := hs.playbackList ▸ h.playbackNodup
  captureNodup := hs.captureList ▸ h.captureNodup

end

section
variable {b : Build} {env : Env} {s s' : State} {a : Addr}

structure Claimed (a : Addr) (s s' : State) : Prop where
  primaryOutput : s'.primaryOutput = s.primaryOutput ∨ s'.primaryOutput = some a
  fastOutput : s'.fastOutput = s.fastOutput ∨ s'.fastOutput = some a
  compressOutput : s'.compressOutput = s.compressOutput ∨ s'.compressOutput = some a
  activeInput : s'.activeInput = s.activeInput
  playbackList : s'.playbackList = s.playbackList
  captureList : s'.captureList = s.captureList
  outs : s'.outs = s.outs
  ins : s'.ins = s.ins

variable {type : StreamType}

theorem claimOutput_claimed (h : s.claimOutput a type = some s') : Claimed a s s' := by
  have hrefl : Claimed a s s := ⟨Or.inl rfl, Or.inl rfl, Or.inl rfl, rfl, rfl, rfl, rfl, rfl⟩
  unfold State.claimOutput at h
  split at h
  · cases h
    split
    · exact ⟨Or.inl rfl, Or.inl rfl, Or.inr rfl, rfl, rfl, rfl, rfl, rfl⟩
    · exact hrefl
  · split at h
    · cases h
      exact ⟨Or.inr rfl, Or.inl rfl, Or.inl rfl, rfl, rfl, rfl, rfl, rfl⟩
    · cases h
  · cases h
    split
    · exact ⟨Or.inl rfl, Or.inr rfl, Or.inl rfl, rfl, rfl, rfl, rfl, rfl⟩
    · exact hrefl
  · cases h
    exact hrefl

variable {l : List Addr}

theorem mem_append_of_claimed {p q : Option Addr} (h : ∀ x ∈ p, x ∈ l) (hq : q = p ∨ q = some a) :
    ∀ x ∈ q, x ∈ l ++ [a] := by
  rcases hq with rfl | rfl
  · exact fun x hx => List.mem_append_left _ (h x hx)
  · intro x hx
    cases hx
    exact List.mem_append_right _ List.mem_cons_self

theorem unclaimOutput_pointers (h : s.claimOutput a type = some s')
    (hcompress : type = .playbackComprOffload → s.compressOutput.isSome)
    (hfast : type = .playbackFast → s.fastOutput = none) : (s'.unclaimOutput type).pointers = s.pointers := by
  unfold State.claimOutput at h
  split at h
  · cases h
    rw [if_neg (by rw [Option.isNone_iff_eq_none, ← ne_eq, Option.ne_none_iff_isSome]; exact hcompress rfl)]
    rfl
  · split at h
    · rename_i hnone
      cases h
      rw [Option.isNone_iff_eq_none] at hnone
      simp only [State.unclaimOutput, State.pointers, hnone]
    · cases h
  · cases h
    have hnone := hfast rfl
    simp only [State.unclaimOutput, State.pointers, hnone, Option.isNone_none, if_true]
  · rename_i hcompr hprim hfast'
    cases h
    unfold State.unclaimOutput
    split
    · exact absurd rfl hprim
    · exact absurd rfl hfast'
    · rfl

theorem Listed.congr (h : Listed s) (hptrs : s'.pointers = s.pointers) (houts : s'.outs = s.outs)
    (hins : s'.ins = s.ins) : Listed s' := by
  simp only [State.pointers, Prod.mk.injEq] at hptrs
  obtain ⟨hprim, hfast, hcompr, hact, hplay, hcap⟩ := hptrs
  refine ⟨?_, ?_, ?_, ?_, ?_, ?_, ?_, ?_⟩
  · rw [hprim, hplay]
    exact h.primaryOutput
  · rw [hfast, hplay]
    exact h.fastOutput
  · rw [hcompr, hplay]
    exact h.compressOutput
  · rw [hact, hcap]
    exact h.activeInput
  · rw [hplay, houts]
    exact h.playback
  · rw [hcap, hins]
    exact h.capture
  · rw [hplay]
    exact h.playbackNodup
  · rw [hcap]
    exact h.captureNodup

theorem initVoice_pointers (s : State) (env : Env) (type : StreamType) :
    (s.initVoice env type).pointers = s.pointers := by
  unfold State.initVoice
  split <;> rfl

theorem initVoice_outs (s : State) (env : Env) (type : StreamType) : (s.initVoice env type).outs = s.outs := by
  unfold State.initVoice
  split <;> rfl

theorem initVoice_ins (s : State) (env : Env) (type : StreamType) : (s.initVoice env type).ins = s.ins := by
  unfold State.initVoice
  split <;> rfl

theorem unclaimOutput_outs (s : State) (type : StreamType) : (s.unclaimOutput type).outs = s.outs := by
  unfold State.unclaimOutput
  split <;> rfl

theorem unclaimOutput_ins (s : State) (type : StreamType) : (s.unclaimOutput type).ins = s.ins := by
  unfold State.unclaimOutput
  split <;> rfl

variable {devices : Devices} {flags : Flags}

theorem openOutput_cases (hsafe : PointersSafe b s (.openOutput a devices flags, env))
    (h : s.openOutput b env a devices flags = some s') :
    s.outs a = none ∧ ((s'.pointers = s.pointers ∧ s'.outs = s.outs ∧ s'.ins = s.ins) ∨
      ∃ claimed out, Claimed a s claimed ∧ s' = { claimed with
        outs := update claimed.outs a (some out), playbackList := claimed.playbackList ++ [a] }) := by
  unfold State.openOutput at h
  split at h
  · cases h
  · rename_i hfree
    refine ⟨Option.not_isSome_iff_eq_none.mp hfree, ?_⟩
    split at h
    · cases h
      exact Or.inl ⟨rfl, rfl, rfl⟩
    · rename_i type usage hkind
      dsimp only at h
      have hinit := initVoice_pointers s env type
      have houts := initVoice_outs s env type
      have hins := initVoice_ins s env type
      split at h
      · cases h
        exact Or.inl ⟨hinit, houts, hins⟩
      · rename_i claimed hclaimed
        have hclaim := claimOutput_claimed hclaimed
        split at h
        · cases h
          simp only [State.pointers, Prod.mk.injEq] at hinit
          obtain ⟨hprim, hfast, hcompr, hact, hplay, hcap⟩ := hinit
          refine Or.inr ⟨claimed, _, ?_, rfl⟩
          exact ⟨hprim ▸ hclaim.primaryOutput, hfast ▸ hclaim.fastOutput, hcompr ▸ hclaim.compressOutput,
            hclaim.activeInput.trans hact, hclaim.playbackList.trans hplay, hclaim.captureList.trans hcap,
            hclaim.outs.trans houts, hclaim.ins.trans hins⟩
        · rename_i hcreate
          cases h
          obtain ⟨hcompr, hfast⟩ := hsafe.resolve_left hcreate
          rw [hkind] at hcompr hfast
          simp only [State.pointers, Prod.mk.injEq] at hinit
          refine Or.inl ⟨?_, ?_, ?_⟩
          · rw [unclaimOutput_pointers hclaimed, initVoice_pointers]
            · rintro rfl
              rw [hinit.2.2.1]
              exact hcompr rfl
            · rintro rfl
              rw [hinit.2.1]
              exact hfast rfl
          · rw [unclaimOutput_outs, hclaim.outs, houts]
          · rw [unclaimOutput_ins, hclaim.ins, hins]

variable {α : Type} {f : Addr → Option α}

section
variable (h : ∀ p, p ∈ l ↔ (f p).isSome)
include h

theorem mem_append_iff_isSome (x : α) (p : Addr) : p ∈ l ++ [a] ↔ (update f a (some x) p).isSome := by
  rw [List.mem_append, List.mem_singleton]
  rcases eq_or_ne p a with rfl | hne
  · rw [update_self]
    exact ⟨fun _ => rfl, fun _ => Or.inr rfl⟩
  · rw [Function.update_of_ne hne, h p]
    exact ⟨fun hp => hp.resolve_right hne, Or.inl⟩

theorem nodup_append_of_free (hnodup : l.Nodup) (hfree : f a = none) : (l ++ [a]).Nodup := by
  rw [List.nodup_append_comm]
  refine List.nodup_cons.mpr ⟨?_, hnodup⟩
  change a ∉ l
  rw [h a, hfree]
  exact nofun

theorem mem_filter_iff_isSome (p : Addr) : p ∈ l.filter (· ≠ a) ↔ (update f a none p).isSome = true := by
  rw [List.mem_filter, decide_eq_true_eq]
  rcases eq_or_ne p a with rfl | hne
  · rw [update_self]
    exact ⟨fun hp => absurd rfl hp.2, nofun⟩
  · rw [Function.update_of_ne hne, h p]
    exact ⟨And.left, fun hp => ⟨hp, hne⟩⟩

end

theorem Listed.openOutput (h : Listed s)
    (hsafe : PointersSafe b s (.openOutput a devices flags, env)) (hs : s.openOutput b env a devices flags = some s') :
    Listed s' := by
  obtain ⟨hfree, ⟨hptrs, houts, hins⟩ | ⟨claimed, out, hclaimed, rfl⟩⟩ := openOutput_cases hsafe hs
  · exact h.congr hptrs houts hins
  · obtain ⟨hprim, hfast, hcompr, hact, hplay, hcap, houts, hins⟩ := hclaimed
    refine ⟨?_, ?_, ?_, ?_, ?_, ?_, ?_, ?_⟩ <;> dsimp only
    · rw [hplay]
      exact mem_append_of_claimed h.primaryOutput hprim
    · rw [hplay]
      exact mem_append_of_claimed h.fastOutput hfast
    · rw [hplay]
      exact mem_append_of_claimed h.compressOutput hcompr
    · rw [hact, hcap]
      exact h.activeInput
    · rw [hplay, houts]
      exact mem_append_iff_isSome h.playback out
    · rw [hcap, hins]
      exact h.capture
    · rw [hplay]
      exact nodup_append_of_free h.playback h.playbackNodup hfree
    · rw [hcap]
      exact h.captureNodup

theorem mem_filter_of_forget {p : Option Addr} (h : ∀ x ∈ p, x ∈ l) : ∀ x ∈ State.forget p a, x ∈ l.filter (· ≠ a) := by
  intro x hx
  unfold State.forget at hx
  split at hx
  · cases hx
  · rename_i hne
    cases hx
    exact List.mem_filter.mpr ⟨h x rfl, decide_eq_true fun heq => hne (congrArg some heq)⟩

theorem Listed.closeOutput (h : Listed s) (hs : s.closeOutput b env a = some s') : Listed s' := by
  obtain ⟨standby, hstby, hs⟩ := unbind hs
  obtain ⟨out, -, hs⟩ := unbind hs
  cases hs
  have hlisted := h.kept (Kept.outStandby hstby)
  exact ⟨mem_filter_of_forget hlisted.primaryOutput, mem_filter_of_forget hlisted.fastOutput,
    mem_filter_of_forget hlisted.compressOutput, hlisted.activeInput, mem_filter_iff_isSome hlisted.playback,
    hlisted.capture, hlisted.playbackNodup.filter _, hlisted.captureNodup⟩

end

section
variable {b : Build} {env : Env} {s s' : State} {a : Addr}

variable {devices : Devices} {flags : Flags} {source : Source} {sampleRate : Nat}

theorem openInput_cases (h : s.openInput b env a devices flags source sampleRate = some s') :
    s.ins a = none ∧ s'.outs = s.outs ∧ ((s'.pointers = s.pointers ∧ s'.ins = s.ins) ∨
      ∃ (placed : State) (input : StreamIn), placed.pointers = s.pointers ∧ placed.ins = update s.ins a (some input) ∧
        s' = { placed with captureList := placed.captureList ++ [a] }) := by
  unfold State.openInput at h
  split at h
  · cases h
  · rename_i hfree
    have hnone := Option.not_isSome_iff_eq_none.mp hfree
    obtain ⟨placed, hplaced, h⟩ := unbind h
    cases h
    refine ⟨hnone, ?_⟩
    split
    · exact ⟨rfl, Or.inl ⟨rfl, rfl⟩⟩
    · rename_i placed
      obtain ⟨hptrs, houts, input, hins⟩ : placed.pointers = s.pointers ∧ placed.outs = s.outs ∧
          ∃ input, placed.ins = update s.ins a (some input) := by
        obtain ⟨fmState, type, usage, p, c, rfl, -⟩ := State.placeInput_spec hplaced
        exact ⟨rfl, rfl, _, rfl⟩
      split
      · exact ⟨houts, Or.inr ⟨placed, input, hptrs, hins, rfl⟩⟩
      · refine ⟨houts, Or.inl ⟨hptrs, ?_⟩⟩
        -- the stream is freed again
        dsimp only
        rw [hins, Function.update_idem]
        exact Function.update_eq_self_iff.mpr hnone.symm

theorem Listed.openInput (h : Listed s)
    (hs : s.openInput b env a devices flags source sampleRate = some s') : Listed s' := by
  obtain ⟨hfree, houts, ⟨hptrs, hins⟩ | ⟨placed, input, hptrs, hins, rfl⟩⟩ := openInput_cases hs
  · exact h.congr hptrs houts hins
  · simp only [State.pointers, Prod.mk.injEq] at hptrs
    obtain ⟨hprim, hfast, hcompr, hact, hplay, hcap⟩ := hptrs
    refine ⟨?_, ?_, ?_, ?_, ?_, ?_, ?_, ?_⟩ <;> dsimp only at houts ⊢
    · rw [hprim, hplay]
      exact h.primaryOutput
    · rw [hfast, hplay]
      exact h.fastOutput
    · rw [hcompr, hplay]
      exact h.compressOutput
    · rw [hact, hcap]
      exact fun p hp => List.mem_append_left _ (h.activeInput p hp)
    · rw [hplay, houts]
      exact h.playback
    · rw [hcap, hins]
      exact mem_append_iff_isSome h.capture input
    · rw [hplay]
      exact h.playbackNodup
    · rw [hcap]
      exact nodup_append_of_free h.capture h.captureNodup hfree

theorem inStandby_activeInput (h : s.inStandby b env a = some s') :
    s'.activeInput = none ∨ (s'.activeInput = s.activeInput ∧
      (s.ins a).any (fun input => input.streamStatus != .standby) = false) := by
  obtain ⟨input, hinput, ⟨hstby, rfl⟩ | ⟨-, unrouted, -, rfl⟩⟩ := State.inStandby_cases h
  · exact Or.inr ⟨rfl, by simp [hinput, hstby]⟩
  · exact Or.inl rfl

theorem Listed.closeInput (h : Listed s) (hsafe : PointersSafe b s (.closeInput a, env))
    (hs : s.closeInput b env a = some s') : Listed s' := by
  obtain ⟨standby, hstby, hs⟩ := unbind hs
  cases hs
  have hlisted := h.kept (Kept.inStandby hstby)
  refine ⟨hlisted.primaryOutput, hlisted.fastOutput, hlisted.compressOutput, ?_, hlisted.playback,
    mem_filter_iff_isSome hlisted.capture, hlisted.playbackNodup, hlisted.captureNodup.filter _⟩
  intro p hp
  dsimp only at hp ⊢
  refine List.mem_filter.mpr ⟨hlisted.activeInput p hp, decide_eq_true ?_⟩
  rintro rfl
  rcases inStandby_activeInput hstby with hnone | ⟨hsame, hinStby⟩
  · rw [hnone] at hp
    cases hp
  · rw [hsame] at hp
    rw [hsafe hp] at hinStby
    cases hinStby

end

section
variable {b : Build} {s s' : State} {input : Op × Env}

theorem Listed.step (h : Listed s) (hsafe : PointersSafe b s input) (hs : step b s input = some s') : Listed s' := by
  obtain ⟨op, env⟩ := input
  rcases Bool.eq_false_or_eq_true op.keeps with hkeeps | hkeeps
  · exact h.kept (step_kept hkeeps hs)
  · unfold Op.keeps at hkeeps
    split at hkeeps
    · exact h.openOutput hsafe hs
    · exact h.closeOutput hs
    · exact h.openInput hs
    · exact h.closeInput hsafe hs
    · cases hs
      exact h.congr rfl rfl rfl
    · cases hkeeps

theorem listed_init : Listed init := by
  refine ⟨?_, ?_, ?_, ?_, ?_, ?_, List.nodup_nil, List.nodup_nil⟩
  iterate 4
    intro a ha
    cases ha
  · intro a
    exact ⟨nofun, nofun⟩
  · intro a
    exact ⟨nofun, nofun⟩

theorem failedOpenKeeps (hsafe : PointersSafe b s input) : FailedOpenKeeps b s input := by
  unfold FailedOpenKeeps
  split
  · intro s' hs hnone
    obtain ⟨-, ⟨hptrs, -⟩ | ⟨claimed, out, -, rfl⟩⟩ := openOutput_cases hsafe hs
    · exact hptrs
    · dsimp only at hnone
      rw [update_self] at hnone
      cases hnone
  · intro s' hs hnone
    obtain ⟨-, -, ⟨hptrs, -⟩ | ⟨placed, input, -, hins, rfl⟩⟩ := openInput_cases hs
    · exact hptrs
    · dsimp only at hnone
      rw [hins, update_self] at hnone
      cases hnone
  · trivial

/-- As long as the slips are not reached, no pointer dangles and every open that fails leaves no trace. -/
theorem pointersOk_run {steps : List (Op × Env)} (hsafe : EachDefinedStep (step b) (PointersSafe b) init steps)
    (h : steps.foldlM (step b) init = some s) :
    PointersOk s ∧ EachDefinedStep (step b) (FailedOpenKeeps b) init steps :=
  ⟨(foldlM_keeps_of_eachDefinedStep (fun _ _ _ hlisted hsafe hs => hlisted.step hsafe hs) listed_init hsafe
    h).pointersOk, hsafe.mono fun _ _ => failedOpenKeeps⟩

end

def outputFlagsOffload : Flags := outputFlagDirect ||| outputFlagCompressOffload ||| outputFlagNonBlocking

theorem pointersOk_run_failedFast : ∃ s,
    [openPrimary, (.openOutput 1 outSpeaker outputFlagFast, { Env.usual with createOk := false })].foldlM
        (step plainBuild) init = some s ∧ s.fastOutput = none ∧
      PointersOk s ∧ EachDefinedStep (step plainBuild) (FailedOpenKeeps plainBuild) init
        [openPrimary, (.openOutput 1 outSpeaker outputFlagFast, { Env.usual with createOk := false })] := by
  have hsafe : EachDefinedStep (step plainBuild) (PointersSafe plainBuild) init
      [openPrimary, (.openOutput 1 outSpeaker outputFlagFast, { Env.usual with createOk := false })] := by
    refine ⟨Or.inl rfl, ?_⟩
    intro s hs
    cases hs
    exact ⟨Or.inr ⟨nofun, fun _ => rfl⟩, fun _ _ => trivial⟩
  exact ⟨_, rfl, rfl, pointersOk_run hsafe rfl⟩

theorem not_pointersOk_failedOffload : ∃ s,
    [openPrimary, (.openOutput 1 outSpeaker outputFlagsOffload, { Env.usual with createOk := false })].foldlM
        (step plainBuild) init = some s ∧ s.compressOutput = some 1 ∧ s.outs 1 = none ∧ ¬PointersOk s := by
  refine ⟨_, rfl, rfl, rfl, ?_⟩
  intro h
  have hmem : (1 : Addr) ∈ [0] := h.compressOutput 1 rfl
  exact absurd hmem (by decide)

end ExynosHal.Audio
