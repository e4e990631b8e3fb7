import ExynosHal.Audio.Call
import Mathlib.Data.List.Nodup

/-! # The locks of `update_call_stream`

The streams that are looked at are locked, and remembered in an array with one place for each stream type.
-/

namespace ExynosHal.Audio
open List (mem_append mem_singleton nodup_append)
open Function (update)

/-- `ASTREAM_MIN` to `ASTREAM_MAX`. -/
def StreamType.all : List StreamType :=
  [.playbackNoAttribute, .playbackPrimary, .playbackFast, .playbackDeepBuffer, .playbackLowLatency,
    .playbackComprOffload,
    .playbackMmap, .playbackAuxDigital, .playbackIncallMusic, .playbackDirect, .captureNoAttribute, .capturePrimary,
    .captureCall, .captureLowLatency, .captureMmap, .captureFmTuner, .captureFmRecording, .captureHotword, .none]

/-- `common.lock` of a stream. -/
inductive Mutex where
  | out (p : Addr)
  | input (p : Addr)
  deriving DecidableEq

structure Walk where
  state : State
  lock : StreamType → Option Mutex := fun _ => none
  locked : List Mutex := []

def Walk.unlocked (w : Walk) : List Mutex := StreamType.all.filterMap w.lock

namespace State

variable (b : Build) (env : Env) (s : State)

/-- The body of the loop over `playback_list`. -/
def outputRound (changed : Bool) (w : Walk) (p : Addr) : Walk :=
  match w.state.outs p with
  | some out =>
    if out.streamType = .playbackPrimary ∧ out.streamStatus ≠ .standby then
      { state := w.state.modifyOut p (closeForCall changed)
        lock := update w.lock out.streamType (some (.out p))
        locked := w.locked ++ [.out p] }
    else w
  | none => w

/-- The body of the loop over `capture_list`. -/
def inputRound (deviceChanged : Bool) (w : Walk) (p : Addr) : Walk :=
  match w.state.ins p with
  | some input =>
    if input.streamStatus ≠ .standby then
      { state :=
          if input.streamType = .capturePrimary then w.state.modifyIn p (w.state.reconfigForCall env deviceChanged)
          else w.state
        lock := update w.lock input.streamType (some (.input p))
        locked := if input.streamType = .capturePrimary then w.locked ++ [.input p] else w.locked }
    else w
  | none => w

def walk (deviceChanged : Bool) : Walk := s.captureList.foldl (inputRound env deviceChanged)
    (s.playbackList.foldl (outputRound (deviceChanged || s.callStateChanged env)) { state := s })

def updateCallStreamLocking (a : Addr) (current new : Devices) : Option (State × List Mutex × List Mutex) := do
  let changed ← s.deviceChanged b env current new
  let w := s.walk env changed
  let stopped ← w.state.stopForChange changed
  let routed ← stopped.routeCall b env a
  return (routed, w.locked, w.unlocked)

def Playing (p : Addr) : Prop := ∃ out ∈ s.outs p, out.streamType = .playbackPrimary ∧ out.streamStatus ≠ .standby

def Working (p : Addr) (type : StreamType) : Prop :=
  ∃ input ∈ s.ins p, input.streamType = type ∧ input.streamStatus ≠ .standby

def ReleasesLocks (a : Addr) (current new : Devices) : Prop :=
  ∀ t locked unlocked, s.updateCallStreamLocking b env a current new = some (t, locked, unlocked) →
    locked.Nodup ∧ unlocked.Perm locked

structure OneEach : Prop where
  outputs : ∀ p ∈ s.playbackList, ∀ q ∈ s.playbackList, s.Playing p → s.Playing q → p = q
  inputs : ∀ p ∈ s.captureList, ∀ q ∈ s.captureList, ∀ type type', s.Working p type → s.Working q type' → p = q
  primary : ∀ p ∈ s.captureList, ∀ type, s.Working p type → type = .capturePrimary

def updated (changed deviceChanged : Bool) (outputs inputs : List Addr) : State := { s with
    outs := fun p => if p ∈ outputs then (s.outs p).map (closeForCall changed) else s.outs p
    ins := fun p => if p ∈ inputs then (s.ins p).map (s.reconfigForCall env deviceChanged) else s.ins p }

end State

structure Walked (env : Env) (changed deviceChanged : Bool) (s : State) (outputs inputs : List Addr) (w : Walk) :
    Prop where
  state : w.state = s.updated env changed deviceChanged outputs inputs
  nodup : w.locked.Nodup
  lockedOut : ∀ p, .out p ∈ w.locked ↔ p ∈ outputs ∧ s.Playing p
  lockedIn : ∀ p, .input p ∈ w.locked ↔ p ∈ inputs ∧ s.Working p .capturePrimary
  ofOut : ∀ type p, w.lock type = some (.out p) → type = .playbackPrimary ∧ p ∈ outputs ∧ s.Playing p
  ofIn : ∀ type p, w.lock type = some (.input p) → p ∈ inputs ∧ s.Working p type
  outTaken : ∀ p ∈ outputs, s.Playing p → ∃ m, w.lock .playbackPrimary = some m
  inTaken : ∀ p ∈ inputs, ∀ type, s.Working p type → ∃ q, w.lock type = some (.input q)

section
variable {env : Env} {changed deviceChanged : Bool} {s : State} {outputs inputs : List Addr} {w : Walk} {p : Addr}

open State

theorem update_eq_some_iff {lock : StreamType → Option Mutex} {type type' : StreamType} {m m' : Mutex} :
    update lock type (some m) type' = some m' ↔
      (type' = type ∧ m = m') ∨ (type' ≠ type ∧ lock type' = some m') := by
  rcases eq_or_ne type' type with rfl | hne
  · simp
  · simp [hne]

theorem updated_append_out {outs : Addr → Option StreamOut}
    (houts : outs = update (s.updated env changed deviceChanged outputs inputs).outs p
      ((s.outs p).map (closeForCall changed))) :
    { s.updated env changed deviceChanged outputs inputs with outs } =
      s.updated env changed deviceChanged (outputs ++ [p]) inputs := by
  have happend : outs = (s.updated env changed deviceChanged (outputs ++ [p]) inputs).outs := by
    subst houts
    funext q
    rcases eq_or_ne q p with rfl | hne
    · simp [updated]
    · simp [updated, hne]
  subst happend
  rfl

theorem updated_append_in {ins : Addr → Option StreamIn}
    (hins : ins = update (s.updated env changed deviceChanged outputs inputs).ins p
      ((s.ins p).map (s.reconfigForCall env deviceChanged))) :
    { s.updated env changed deviceChanged outputs inputs with ins } =
      s.updated env changed deviceChanged outputs (inputs ++ [p]) := by
  have happend : ins = (s.updated env changed deviceChanged outputs (inputs ++ [p])).ins := by
    subst hins
    funext q
    rcases eq_or_ne q p with rfl | hne
    · simp [updated]
    · simp [updated, hne]
  subst happend
  rfl

theorem outputRound_cases (changed : Bool) (hget : w.state.outs p = s.outs p) :
    (¬ s.Playing p ∧ outputRound changed w p = w ∧ (s.outs p).map (closeForCall changed) = s.outs p) ∨
      (s.Playing p ∧ outputRound changed w p = {
          state := w.state.modifyOut p (closeForCall changed)
          lock := update w.lock .playbackPrimary (some (.out p))
          locked := w.locked ++ [.out p] }) := by
  unfold outputRound Playing
  rw [hget]
  rcases s.outs p with _ | out
  · simp
  · by_cases hplaying : out.streamType = .playbackPrimary ∧ out.streamStatus ≠ .standby
    · right
      exact ⟨⟨out, rfl, hplaying⟩, (if_pos hplaying).trans (by rw [hplaying.1])⟩
    · left
      refine ⟨?_, if_neg hplaying, ?_⟩
      · rintro ⟨_, ⟨⟩, h⟩
        exact hplaying h
      · exact congrArg some (if_neg fun h => hplaying ⟨h.1, h.2.1⟩)

theorem Walked.outputRound (h : Walked env changed deviceChanged s outputs [] w) (hp : p ∉ outputs) :
    Walked env changed deviceChanged s (outputs ++ [p]) [] (outputRound changed w p) := by
  have hget : w.state.outs p = s.outs p := by rw [h.state]; exact if_neg hp
  rcases outputRound_cases changed hget with ⟨hnot, hround, hsame⟩ | ⟨hplaying, hround⟩
  · rw [hround]
    have hwas (q : Addr) (hq : s.Playing q) : q ∈ outputs ++ [p] ↔ q ∈ outputs := by
      rw [mem_append, mem_singleton, or_iff_left]
      rintro rfl
      exact hnot hq
    refine ⟨?_, h.nodup, ?_, h.lockedIn, ?_, h.ofIn, ?_, h.inTaken⟩
    · rw [h.state, ← updated_append_out (by rw [hsame, ← hget, h.state, Function.update_eq_self])]
    · intro q
      rw [h.lockedOut, and_congr_left (hwas q)]
    · intro type q hq
      obtain ⟨htype, hmem, hplaying⟩ := h.ofOut type q hq
      exact ⟨htype, (hwas q hplaying).mpr hmem, hplaying⟩
    · intro q hmem hplaying
      exact h.outTaken q ((hwas q hplaying).mp hmem) hplaying
  · rw [hround]
    refine ⟨?_, ?_, ?_, ?_, ?_, ?_, ?_, nofun⟩
    · rw [h.state]
      exact updated_append_out (by rw [← hget, h.state])
    · refine nodup_append.mpr ⟨h.nodup, List.nodup_singleton _, ?_⟩
      rintro _ hm _ hp' rfl
      rw [mem_singleton.mp hp', h.lockedOut] at hm
      exact hp hm.1
    · intro q
      simp only [mem_append, mem_singleton, Mutex.out.injEq, h.lockedOut, or_and_right]
      exact or_congr_right ⟨fun hq => ⟨hq, hq ▸ hplaying⟩, And.left⟩
    · intro q
      simpa using h.lockedIn q
    · intro type q hq
      rcases update_eq_some_iff.mp hq with ⟨rfl, ⟨⟩⟩ | ⟨hne, hq⟩
      · exact ⟨rfl, by simp, hplaying⟩
      · exact absurd (h.ofOut type q hq).1 hne
    · intro type q hq
      rcases update_eq_some_iff.mp hq with ⟨rfl, ⟨⟩⟩ | ⟨-, hq⟩
      exact h.ofIn type q hq
    · intro _ _ _
      exact ⟨.out p, by simp⟩

theorem inputRound_cases (hget : w.state.ins p = s.ins p) (hsame : w.state.reconfigForCall env deviceChanged =
    s.reconfigForCall env deviceChanged) : (∀ type, ¬ s.Working p type) ∧ inputRound env deviceChanged w p = w ∧
        (s.ins p).map (s.reconfigForCall env deviceChanged) = s.ins p ∨
      ∃ type, s.Working p type ∧ (∀ type', s.Working p type' → type' = type) ∧ inputRound env deviceChanged w p =
          { state := if type = .capturePrimary then w.state.modifyIn p (s.reconfigForCall env deviceChanged)
                  else w.state
            lock := update w.lock type (some (.input p))
            locked := if type = .capturePrimary then w.locked ++ [.input p] else w.locked } ∧
        (type ≠ .capturePrimary → (s.ins p).map (s.reconfigForCall env deviceChanged) = s.ins p) := by
  unfold inputRound Working
  rw [hget, hsame]
  rcases s.ins p with _ | input
  · simp
  · by_cases hworking : input.streamStatus ≠ .standby
    · right
      refine ⟨input.streamType, ⟨input, rfl, rfl, hworking⟩, ?_, if_pos hworking, ?_⟩
      · rintro type' ⟨_, ⟨⟩, rfl, -⟩
        rfl
      · intro htype
        exact congrArg some (if_neg fun h => htype h.1)
    · left
      refine ⟨?_, if_neg hworking, ?_⟩
      · rintro type ⟨_, ⟨⟩, -, h⟩
        exact hworking h
      · refine congrArg some (if_neg ?_)
        rintro ⟨-, h, -⟩
        exact hworking (by rw [h]; decide)

theorem Walked.inputRound (h : Walked env changed deviceChanged s outputs inputs w) (hp : p ∉ inputs) :
    Walked env changed deviceChanged s outputs (inputs ++ [p]) (inputRound env deviceChanged w p) := by
  have hget : w.state.ins p = s.ins p := by rw [h.state]; exact if_neg hp
  have hrest {type : StreamType} (hnot : ¬ s.Working p type) (q : Addr) (hq : s.Working q type) :
      q ∈ inputs ++ [p] ↔ q ∈ inputs := by
    rw [mem_append, mem_singleton, or_iff_left]
    rintro rfl
    exact hnot hq
  have hstate : (s.ins p).map (s.reconfigForCall env deviceChanged) = s.ins p →
      w.state = s.updated env changed deviceChanged outputs (inputs ++ [p]) := by
    intro hsame
    rw [h.state, ← updated_append_in (by rw [hsame, ← hget, h.state, Function.update_eq_self])]
  rcases inputRound_cases hget (by rw [h.state]; rfl) with ⟨hnot, hround, hsame⟩ | ⟨type, hworking, honly, hround,
    hsame⟩
  · rw [hround]
    refine ⟨hstate hsame, h.nodup, h.lockedOut, ?_, h.ofOut, ?_, h.outTaken, ?_⟩
    · intro q
      rw [h.lockedIn, and_congr_left (hrest (hnot _) q)]
    · intro type q hq
      obtain ⟨hmem, hworking⟩ := h.ofIn type q hq
      exact ⟨(hrest (hnot _) q hworking).mpr hmem, hworking⟩
    · intro q hmem type hworking
      exact h.inTaken q ((hrest (hnot _) q hworking).mp hmem) type hworking
  · rw [hround]
    refine ⟨?_, ?_, ?_, ?_, ?_, ?_, ?_, ?_⟩
    · dsimp only
      split_ifs with htype
      · rw [h.state]
        exact updated_append_in (by rw [← hget, h.state])
      · exact hstate (hsame htype)
    · dsimp only
      split_ifs
      · refine nodup_append.mpr ⟨h.nodup, List.nodup_singleton _, ?_⟩
        rintro _ hm _ hp' rfl
        rw [mem_singleton.mp hp', h.lockedIn] at hm
        exact hp hm.1
      · exact h.nodup
    · intro q
      dsimp only
      split_ifs
      · simpa using h.lockedOut q
      · exact h.lockedOut q
    · intro q
      dsimp only
      split_ifs with htype
      · subst htype
        simp only [mem_append, mem_singleton, Mutex.input.injEq, h.lockedIn, or_and_right]
        exact or_congr_right ⟨fun hq => ⟨hq, hq ▸ hworking⟩, And.left⟩
      · rw [h.lockedIn, and_congr_left (hrest (fun hprim => htype (honly _ hprim).symm) q)]
    · intro type' q hq
      rcases update_eq_some_iff.mp hq with ⟨rfl, ⟨⟩⟩ | ⟨-, hq⟩
      exact h.ofOut type' q hq
    · intro type' q hq
      rcases update_eq_some_iff.mp hq with ⟨rfl, ⟨⟩⟩ | ⟨-, hq⟩
      · exact ⟨by simp, hworking⟩
      · obtain ⟨hmem, hworking⟩ := h.ofIn type' q hq
        exact ⟨List.mem_append_left _ hmem, hworking⟩
    · intro q hmem hplaying
      obtain ⟨m, hm⟩ := h.outTaken q hmem hplaying
      rcases eq_or_ne StreamType.playbackPrimary type with rfl | hne
      · exact ⟨.input p, by simp⟩
      · exact ⟨m, update_eq_some_iff.mpr (.inr ⟨hne, hm⟩)⟩
    · intro q hmem type' hq
      rcases eq_or_ne type' type with rfl | hne
      · exact ⟨p, by simp⟩
      · rcases mem_append.mp hmem with hmem | hlast
        · obtain ⟨r, hr⟩ := h.inTaken q hmem type' hq
          exact ⟨r, update_eq_some_iff.mpr (.inr ⟨hne, hr⟩)⟩
        · rw [mem_singleton.mp hlast] at hq
          exact absurd (honly type' hq) hne

theorem Walked.outputs_foldl (l : List Addr) (hl : (outputs ++ l).Nodup)
    (h : Walked env changed deviceChanged s outputs [] w) :
    Walked env changed deviceChanged s (outputs ++ l) [] (l.foldl (State.outputRound changed) w) := by
  induction l generalizing outputs w with
  | nil => simpa using h
  | cons p l ih =>
    have hp : p ∉ outputs := fun hmem => (nodup_append.mp hl).2.2 p hmem p (by simp) rfl
    simpa using ih (by simpa using hl) (h.outputRound hp)

theorem Walked.inputs_foldl (l : List Addr) (hl : (inputs ++ l).Nodup)
    (h : Walked env changed deviceChanged s outputs inputs w) :
    Walked env changed deviceChanged s outputs (inputs ++ l) (l.foldl (State.inputRound env deviceChanged) w) := by
  induction l generalizing inputs w with
  | nil => simpa using h
  | cons p l ih =>
    have hp : p ∉ inputs := fun hmem => (nodup_append.mp hl).2.2 p hmem p (by simp) rfl
    simpa using ih (by simpa using hl) (h.inputRound hp)

theorem walked_walk (env : Env) (deviceChanged : Bool) (hout : s.playbackList.Nodup) (hin : s.captureList.Nodup) :
    Walked env (deviceChanged || s.callStateChanged env) deviceChanged s s.playbackList s.captureList
      (s.walk env deviceChanged) := by
  have hstart : Walked env (deviceChanged || s.callStateChanged env) deviceChanged s [] [] { state := s } :=
    ⟨rfl, List.nodup_nil, by simp, by simp, nofun, nofun, nofun, nofun⟩
  simpa [walk] using (hstart.outputs_foldl s.playbackList (by simpa using hout)).inputs_foldl s.captureList
    (by simpa using hin)

end

section
variable {b : Build} {env : Env} {changed deviceChanged : Bool} {s : State} {w : Walk} {a : Addr}
  {current new : Devices}

theorem updateCallStreamLocking_state (hout : s.playbackList.Nodup) (hin : s.captureList.Nodup) :
    (s.updateCallStreamLocking b env a current new).map Prod.fst = s.updateCallStream b env a current new := by
  unfold State.updateCallStreamLocking State.updateCallStream
  rcases s.deviceChanged b env current new with _ | changed
  · rfl
  · have hstate : (s.walk env changed).state = s.updateStreams env changed := (walked_walk env changed hout hin).state
    simp only [Option.bind_eq_bind, Option.bind_some, hstate]
    rcases (s.updateStreams env changed).stopForChange changed with _ | stopped
    · rfl
    · simp only [Option.bind_some]
      rcases stopped.routeCall b env a <;> rfl

theorem StreamType.mem_all (type : StreamType) : type ∈ StreamType.all := by
  cases type <;> decide

theorem mem_unlocked {m : Mutex} : m ∈ w.unlocked ↔ ∃ type, w.lock type = some m := by
  simp [Walk.unlocked, StreamType.mem_all]

theorem State.Working.type_eq {p : Addr} {type type' : StreamType} (h : s.Working p type) (h' : s.Working p type') :
    type = type' := by
  obtain ⟨input, hinput, rfl, -⟩ := h
  obtain ⟨input', hinput', rfl, -⟩ := h'
  cases Option.mem_unique hinput hinput'
  rfl

theorem Walked.unlocked_nodup (h : Walked env changed deviceChanged s s.playbackList s.captureList w) :
    w.unlocked.Nodup := by
  refine List.Nodup.filterMap ?_ (by decide)
  rintro type type' (p | p) hm hm'
  · exact (h.ofOut type p hm).1.trans (h.ofOut type' p hm').1.symm
  · exact (h.ofIn type p hm).2.type_eq (h.ofIn type' p hm').2

theorem Walked.balanced_iff (h : Walked env changed deviceChanged s s.playbackList s.captureList w) :
    w.unlocked.Perm w.locked ↔ s.OneEach := by
  rw [List.perm_ext_iff_of_nodup h.unlocked_nodup h.nodup]
  simp only [mem_unlocked]
  constructor
  · intro hperm
    have hprim : ∀ p ∈ s.captureList, ∀ type, s.Working p type → type = .capturePrimary := by
      intro p hp type hworking
      obtain ⟨q, hq⟩ := h.inTaken p hp type hworking
      exact (h.ofIn type q hq).2.type_eq ((h.lockedIn q).mp ((hperm _).mp ⟨type, hq⟩)).2
    refine ⟨?_, ?_, hprim⟩
    · intro p hp q hq hpp hqq
      obtain ⟨type, htype⟩ := (hperm (.out p)).mpr ((h.lockedOut p).mpr ⟨hp, hpp⟩)
      obtain ⟨type', htype'⟩ := (hperm (.out q)).mpr ((h.lockedOut q).mpr ⟨hq, hqq⟩)
      rw [(h.ofOut _ p htype).1] at htype
      rw [(h.ofOut _ q htype').1, htype] at htype'
      cases htype'
      rfl
    · intro p hp q hq type type' hpp hqq
      cases hprim p hp type hpp
      cases hprim q hq type' hqq
      obtain ⟨type, htype⟩ := (hperm (.input p)).mpr ((h.lockedIn p).mpr ⟨hp, hpp⟩)
      obtain ⟨type', htype'⟩ := (hperm (.input q)).mpr ((h.lockedIn q).mpr ⟨hq, hqq⟩)
      cases (h.ofIn _ p htype).2.type_eq hpp
      cases (h.ofIn _ q htype').2.type_eq hqq
      cases htype.symm.trans htype'
      rfl
  · rintro hone (p | p)
    · rw [h.lockedOut]
      constructor
      · rintro ⟨type, htype⟩
        exact (h.ofOut type p htype).2
      · rintro ⟨hp, hplaying⟩
        obtain ⟨q | q, hq⟩ := h.outTaken p hp hplaying
        · obtain ⟨-, hmem, hqq⟩ := h.ofOut _ q hq
          rw [hone.outputs q hmem p hp hqq hplaying] at hq
          exact ⟨_, hq⟩
        · obtain ⟨hmem, hqq⟩ := h.ofIn _ q hq
          cases hone.primary q hmem _ hqq
    · rw [h.lockedIn]
      constructor
      · rintro ⟨type, htype⟩
        obtain ⟨hmem, hworking⟩ := h.ofIn type p htype
        exact ⟨hmem, hone.primary p hmem type hworking ▸ hworking⟩
      · rintro ⟨hp, hworking⟩
        obtain ⟨q, hq⟩ := h.inTaken p hp _ hworking
        obtain ⟨hmem, hqq⟩ := h.ofIn _ q hq
        rw [hone.inputs q hmem p hp _ _ hqq hworking] at hq
        exact ⟨_, hq⟩

end

/-- A call that returns has unlocked exactly what it has locked just when at most one primary output and at most one
input were not in standby, and the input was primary. -/
theorem releasesLocks_iff (b : Build) (env : Env) (s : State) (a : Addr) (current new : Devices)
    (hout : s.playbackList.Nodup) (hin : s.captureList.Nodup)
    (hreturns : (s.updateCallStream b env a current new).isSome) :
    s.ReleasesLocks b env a current new ↔ s.OneEach := by
  rw [← updateCallStreamLocking_state hout hin, Option.isSome_map] at hreturns
  obtain ⟨⟨t, locked, unlocked⟩, hlocking⟩ := Option.isSome_iff_exists.mp hreturns
  obtain ⟨changed, -, hrest⟩ := Option.bind_eq_some_iff.mp hlocking
  obtain ⟨stopped, -, hrest⟩ := Option.bind_eq_some_iff.mp hrest
  obtain ⟨routed, -, hrest⟩ := Option.bind_eq_some_iff.mp hrest
  cases hrest
  have hwalked := walked_walk env changed hout hin
  rw [← hwalked.balanced_iff, State.ReleasesLocks, hlocking]
  constructor
  · intro h
    exact (h _ _ _ rfl).2
  · rintro h _ _ _ ⟨⟩
    exact ⟨hwalked.nodup, h⟩

def recordingState (type : StreamType) : State where
  outs p := if p = 0 then
      some { requestedDevices := outSpeaker, streamType := .playbackPrimary, streamUsage := .media } else none
  ins p := if p = 1 then
      some { requestedDevices := inBuiltinMic, requestedFlags := 0, requestedSource := .mic, streamType := type,
             streamUsage := .recording, streamStatus := .playing } else none
  playbackList := [0]
  captureList := [1]

theorem releasesLocks_primary :
    (recordingState .capturePrimary).ReleasesLocks ⟨false, false, false, false⟩ .usual 0 outSpeaker outSpeaker := by
  refine (releasesLocks_iff _ _ _ _ _ _ (by decide) (by decide) (by decide)).mpr ⟨?_, ?_, ?_⟩
  · intro p hp q hq _ _
    exact (mem_singleton.mp hp).trans (mem_singleton.mp hq).symm
  · intro p hp q hq _ _ _ _
    exact (mem_singleton.mp hp).trans (mem_singleton.mp hq).symm
  · rintro p hp type ⟨input, hinput, rfl, -⟩
    cases mem_singleton.mp hp
    cases hinput
    rfl

/-- The mutex of a fast capture stream is unlocked without having been locked. -/
theorem fast_capture_unlocked :
    ¬ ∀ (b : Build) (env : Env) (s : State) (a : Addr) (current new : Devices),
    s.ReleasesLocks b env a current new := by
  intro h
  have hperm :=
    (h ⟨false, false, false, false⟩ .usual (recordingState .captureLowLatency) 0 outSpeaker outSpeaker _ _ _ rfl).2
  exact absurd hperm.length_eq (by decide)

end ExynosHal.Audio
