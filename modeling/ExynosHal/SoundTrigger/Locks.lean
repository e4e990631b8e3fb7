import Mathlib.Logic.Relation
import Mathlib.Tactic
import ExynosHal.Library.Run
import ExynosHal.Library.Words

/-! # The locks of the sound trigger device

Each call of `sound_trigger_hw.c` as the list of what it does to the three mutexes, run by any number of
callers beside the callback thread.
-/

namespace ExynosHal.SoundTrigger.Locks
open Library.Run
open Function (update update_apply)

inductive Lock where
  | device | trigger | recording
  deriving DecidableEq

inductive Instr where
  | acquire (lock : Lock)
  | tryAcquire
  | release (lock : Lock)
  | createThread
  | beginJoin
  | readThread
  | awaitThread (id : Nat)
  | reacquire
  deriving DecidableEq

inductive Call where
  | load
  | unload (joins : Bool)
  | startRecognition (creates : Bool)
  | stopRecognition (joins : Bool)
  | openForStreaming
  | closeForStreaming (creates : Bool)
  | readSamples
  | openRecording
  | closeRecording
  | readRecordingSamples
  | headsetStatus (recording streaming fails : Bool)
  | voicecallStatus (recording streaming : Bool)
  deriving DecidableEq

def joinCallbackThread : List Instr := [.beginJoin, .readThread, .reacquire]

def during (lock : Lock) (taken : Bool) : List Instr :=
  if taken then [.acquire lock, .release lock] else []

def Call.program : Call → List Instr
  | .load => [.acquire .device, .release .device]
  | .unload joins => [.acquire .device] ++ (if joins then joinCallbackThread else []) ++ [.release .device]
  | .startRecognition creates | .closeForStreaming creates =>
    [.acquire .device, .acquire .trigger] ++ (if creates then [.createThread] else []) ++
      [.release .trigger, .release .device]
  | .stopRecognition joins =>
    [.tryAcquire, .acquire .trigger] ++ (if joins then joinCallbackThread else []) ++
      [.release .trigger, .release .device]
  | .openForStreaming => [.acquire .device, .acquire .trigger, .release .trigger, .release .device]
  | .readSamples => [.acquire .trigger, .release .trigger]
  | .openRecording | .closeRecording => [.acquire .device, .acquire .recording, .release .recording, .release .device]
  | .readRecordingSamples => [.acquire .recording, .release .recording]
  | .headsetStatus recording streaming fails =>
    [.acquire .device] ++ during .recording recording ++ during .trigger streaming ++ during .recording fails ++
      [.release .device]
  | .voicecallStatus recording streaming =>
    [.acquire .device] ++ during .recording recording ++ during .trigger streaming ++ [.release .device]

inductive ThreadPc where
  | starts | setsUp | polls | pollReturned | handles | ended
  deriving DecidableEq

def ThreadPc.wantsLock : ThreadPc → Bool
  | .starts | .pollReturned => true
  | _ => false

def ThreadPc.holdsLock : ThreadPc → Bool
  | .setsUp | .handles => true
  | _ => false

inductive Agent (P : Type) where
  | caller (p : P)
  | thread
  deriving DecidableEq

structure State (P : Type) where
  todo : P → List Instr
  owner : Lock → Option (Agent P)
  threadId : Nat
  thread : ThreadPc

section
variable {P : Type} [DecidableEq P]

def initial : State P := { todo := fun _ => [], owner := fun _ => none, threadId := 0, thread := .ended }

def setTodo (s : State P) (p : P) (todo : List Instr) : State P := { s with todo := update s.todo p todo }

def setOwner (s : State P) (lock : Lock) (owner : Option (Agent P)) : State P :=
  { s with owner := update s.owner lock owner }

def take (s : State P) (lock : Lock) (p : P) (rest : List Instr) : Option (State P) :=
  if s.owner lock = none then some (setTodo (setOwner s lock (some (.caller p))) p rest) else none

def exec (s : State P) (p : P) : Option (State P) :=
  match s.todo p with
  | .acquire lock :: rest => take s lock p rest
  | .tryAcquire :: rest => take s .device p rest
  | .release lock :: rest => some (setTodo (setOwner s lock none) p rest)
  | .createThread :: rest =>
    if s.thread = .ended then
      some { setTodo s p rest with threadId := s.threadId + 1, thread := .starts }
    else some (setTodo s p rest)
  | .beginJoin :: .readThread :: .reacquire :: rest =>
    if s.thread = .ended then some (setTodo s p rest)
    else some (setTodo (setOwner s .device none) p (.readThread :: .reacquire :: rest))
  | .readThread :: rest => some (setTodo s p (.awaitThread s.threadId :: rest))
  | .awaitThread id :: rest =>
    if id = s.threadId ∧ s.thread ≠ .ended then none else some (setTodo s p rest)
  | .reacquire :: rest => take s .device p rest
  | _ => none

inductive ThreadAction where
  | lock | unlock | pollReturns | exit

def threadStep (s : State P) : ThreadAction → Option (State P)
  | .lock =>
    if s.owner .device = none then
      match s.thread with
      | .starts => some { setOwner s .device (some .thread) with thread := .setsUp }
      | .pollReturned => some { setOwner s .device (some .thread) with thread := .handles }
      | _ => none
    else none
  | .unlock => if s.thread.holdsLock then some { setOwner s .device none with thread := .polls } else none
  | .pollReturns => if s.thread = .polls then some { s with thread := .pollReturned } else none
  | .exit => if s.thread = .handles then some { setOwner s .device none with thread := .ended } else none

inductive Input (P : Type) where
  | call (p : P) (c : Call)
  | exec (p : P)
  | giveUp (p : P)
  | thread (a : ThreadAction)

def step (s : State P) : Input P → Option (State P)
  | .call p c => if s.todo p = [] then some (setTodo s p c.program) else none
  | .exec p => exec s p
  | .giveUp p => if (s.todo p).head? = some .tryAcquire ∧ s.owner .device ≠ none then some (setTodo s p []) else none
  | .thread a => threadStep s a

end

/-- Who a caller or the thread is kept waiting by. -/
inductive WaitsFor {P : Type} (s : State P) : Agent P → Agent P → Prop where
  | lock {p : P} {lock : Lock} {rest : List Instr} {a : Agent P} (htodo : s.todo p = .acquire lock :: rest)
      (howner : s.owner lock = some a) : WaitsFor s (.caller p) a
  | reacquire {p : P} {rest : List Instr} {a : Agent P} (htodo : s.todo p = .reacquire :: rest)
      (howner : s.owner .device = some a) : WaitsFor s (.caller p) a
  | join {p : P} {rest : List Instr} (htodo : s.todo p = .awaitThread s.threadId :: rest)
      (hrunning : s.thread ≠ .ended) : WaitsFor s (.caller p) .thread
  | thread {a : Agent P} (hthread : s.thread.wantsLock) (howner : s.owner .device = some a) : WaitsFor s .thread a

def CircularWait {P : Type} (s : State P) : Prop := ∃ a, Relation.TransGen (WaitsFor s) a a

def joins : List Instr → Bool
  | .readThread :: _ | .awaitThread _ :: _ | .reacquire :: _ => true
  | _ => false

/-- `trigger_lock` is kept by a caller that joins. -/
def State.triggerKept {P : Type} (s : State P) : Bool :=
  match s.owner .trigger with
  | some (.caller p) => joins (s.todo p)
  | _ => false

def orderly {P : Type} (s : State P) : Input P → Bool
  | .exec p =>
    match s.todo p with
    | .acquire .device :: rest | .tryAcquire :: rest => !(s.triggerKept && Instr.acquire .trigger ∈ rest)
    | _ => true
  | _ => true

def holds (lock : Lock) : List Instr → Bool
  | [] => false
  | .acquire l :: rest => l ≠ lock && holds lock rest
  | .release l :: rest => l = lock || holds lock rest
  | .tryAcquire :: rest | .readThread :: rest | .awaitThread _ :: rest | .reacquire :: rest =>
    lock ≠ .device && holds lock rest
  | .beginJoin :: rest => lock = .device || holds lock rest
  | .createThread :: rest => holds lock rest

def WellOrdered : List Instr → Prop
  | [] => True
  | .acquire .device :: rest | .tryAcquire :: rest =>
    holds .device rest ∧ holds .trigger rest = false ∧ holds .recording rest = false ∧ joins rest = false ∧
      WellOrdered rest
  | .acquire .trigger :: rest =>
    holds .trigger rest ∧ holds .recording rest = false ∧ joins rest = false ∧ WellOrdered rest
  | .acquire .recording :: rest =>
    holds .recording rest ∧ holds .trigger rest = false ∧ joins rest = false ∧ WellOrdered rest
  | .release lock :: rest => holds lock rest = false ∧ joins rest = false ∧ WellOrdered rest
  | .createThread :: rest => joins rest = false ∧ WellOrdered rest
  | .beginJoin :: rest => joins rest ∧ WellOrdered rest
  | .readThread :: rest | .awaitThread _ :: rest =>
    holds .device rest = false ∧ holds .recording rest = false ∧ joins rest ∧ WellOrdered rest
  | .reacquire :: rest =>
    holds .device rest ∧ holds .recording rest = false ∧ joins rest = false ∧ .acquire .trigger ∉ rest ∧
    WellOrdered rest

theorem wellOrdered_program (c : Call) : WellOrdered c.program := by
  cases c with
  | load => simp [Call.program, WellOrdered, holds, joins]
  | unload joined => cases joined <;> simp [Call.program, joinCallbackThread, WellOrdered, holds, joins]
  | startRecognition creates => cases creates <;> simp [Call.program, WellOrdered, holds, joins]
  | stopRecognition joined => cases joined <;> simp [Call.program, joinCallbackThread, WellOrdered, holds, joins]
  | openForStreaming => simp [Call.program, WellOrdered, holds, joins]
  | closeForStreaming creates => cases creates <;> simp [Call.program, WellOrdered, holds, joins]
  | readSamples => simp [Call.program, WellOrdered, holds, joins]
  | openRecording => simp [Call.program, WellOrdered, holds, joins]
  | closeRecording => simp [Call.program, WellOrdered, holds, joins]
  | readRecordingSamples => simp [Call.program, WellOrdered, holds, joins]
  | headsetStatus recording streaming fails =>
    cases recording <;> cases streaming <;> cases fails <;> simp [Call.program, during, WellOrdered, holds, joins]
  | voicecallStatus recording streaming =>
    cases recording <;> cases streaming <;> simp [Call.program, during, WellOrdered, holds, joins]

theorem holds_program (lock : Lock) (c : Call) : holds lock c.program = false := by
  cases lock <;> cases c with
  | unload joined => cases joined <;> rfl
  | startRecognition creates => cases creates <;> rfl
  | stopRecognition joined => cases joined <;> rfl
  | closeForStreaming creates => cases creates <;> rfl
  | headsetStatus recording streaming fails => cases recording <;> cases streaming <;> cases fails <;> rfl
  | voicecallStatus recording streaming => cases recording <;> cases streaming <;> rfl
  | _ => rfl

theorem joins_program (c : Call) : joins c.program = false := by
  cases c <;> rfl

structure Inv {P : Type} (s : State P) : Prop where
  wellOrdered : ∀ p, WellOrdered (s.todo p)
  owner_caller : ∀ lock p, s.owner lock = some (.caller p) ↔ holds lock (s.todo p)
  owner_thread : ∀ lock, s.owner lock = some .thread ↔ lock = .device ∧ s.thread.holdsLock
  kept : s.triggerKept → ∀ p, s.owner .device = some (.caller p) → .acquire .trigger ∉ s.todo p

section
variable {P : Type}

theorem inv_initial : Inv (initial : State P) := by
  refine ⟨fun _ => trivial, fun lock p => ?_, fun lock => ?_, nofun⟩
  · simp [initial, holds]
  · simp [initial, ThreadPc.holdsLock]

def callerRank (todo : List Instr) : Nat :=
  if holds .recording todo then 0
  else if holds .device todo then 1
  else if joins todo then 3
  else if holds .trigger todo then 0
  else 4

def rank (s : State P) : Agent P → Nat
  | .thread => if s.thread.holdsLock then 0 else 2
  | .caller p => callerRank (s.todo p)

variable {s : State P} {a : Agent P}

theorem Inv.rank_deviceOwner (h : Inv s) (howner : s.owner .device = some a) : rank s a ≤ 1 := by
  cases a with
  | thread =>
    have hholds := ((h.owner_thread .device).mp howner).2
    simp [rank, hholds]
  | caller p =>
    have hholds := (h.owner_caller .device p).mp howner
    show callerRank (s.todo p) ≤ 1
    unfold callerRank
    rw [if_pos hholds]
    split <;> omega

theorem Inv.rank_recordingOwner (h : Inv s) (howner : s.owner .recording = some a) : rank s a = 0 := by
  cases a with
  | thread => cases ((h.owner_thread .recording).mp howner).1
  | caller p =>
    have hholds := (h.owner_caller .recording p).mp howner
    exact if_pos hholds

theorem Inv.rank_triggerOwner (h : Inv s) {q : P} (howner : s.owner .trigger = some (.caller q)) :
    rank s (.caller q) ≤ 3 := by
  have hholds := (h.owner_caller .trigger q).mp howner
  show callerRank (s.todo q) ≤ 3
  unfold callerRank
  rw [if_pos hholds]
  repeat' split
  all_goals omega

theorem Inv.rank_lt (h : Inv s) {a b : Agent P} (hwaits : WaitsFor s a b) : rank s b < rank s a := by
  cases hwaits with
  | @lock p lock rest _ htodo howner =>
    have hord := h.wellOrdered p
    rw [htodo] at hord
    cases lock with
    | device =>
      obtain ⟨-, htrig, hrec, -⟩ := hord
      have hp : rank s (.caller p) = 4 := by simp [rank, callerRank, htodo, holds, joins, htrig, hrec]
      have hb := h.rank_deviceOwner howner
      omega
    | recording =>
      obtain ⟨-, htrig, -⟩ := hord
      have hb := h.rank_recordingOwner howner
      have hp : 0 < rank s (.caller p) := by
        show 0 < callerRank (s.todo p)
        rw [htodo, callerRank, if_neg (by simp [holds])]
        split
        · omega
        · simp [joins, holds, htrig]
      omega
    | trigger =>
      obtain ⟨-, hrec, -⟩ := hord
      cases b with
      | thread => cases ((h.owner_thread .trigger).mp howner).1
      | caller q =>
        cases hdev : holds .device rest with
        | false =>
          have hp : rank s (.caller p) = 4 := by simp [rank, callerRank, htodo, holds, joins, hrec, hdev]
          have hq := h.rank_triggerOwner howner
          omega
        | true =>
          have hp : rank s (.caller p) = 1 := by simp [rank, callerRank, htodo, holds, hrec, hdev]
          have hpOwns : s.owner .device = some (.caller p) :=
            (h.owner_caller .device p).mpr (by simp [htodo, holds, hdev])
          -- The one who holds `trigger` neither holds `device` nor joins the thread.
          have hqDev : holds .device (s.todo q) = false := by
            by_contra hholds
            have hqOwns := (h.owner_caller .device q).mpr (by simpa using hholds)
            rw [hpOwns] at hqOwns
            cases hqOwns
            have hself := (h.owner_caller .trigger p).mp howner
            simp [htodo, holds] at hself
          have hqJoins : joins (s.todo q) = false := by
            by_contra hjoins
            have hkept : s.triggerKept := by
              simpa [State.triggerKept, howner] using hjoins
            exact h.kept hkept p hpOwns (htodo ▸ List.mem_cons_self)
          have hqTrig := (h.owner_caller .trigger q).mp howner
          have hq : rank s (.caller q) = 0 := by simp [rank, callerRank, hqDev, hqJoins, hqTrig]
          omega
  | @reacquire p rest _ htodo howner =>
    have hord := h.wellOrdered p
    rw [htodo] at hord
    have hp : rank s (.caller p) = 3 := by simp [rank, callerRank, htodo, holds, joins, hord.2.1]
    have hb := h.rank_deviceOwner howner
    omega
  | @join p rest htodo hrunning =>
    have hord := h.wellOrdered p
    rw [htodo] at hord
    have hp : rank s (.caller p) = 3 := by simp [rank, callerRank, htodo, holds, joins, hord.2.1]
    have ht : rank s (.thread : Agent P) ≤ 2 := by
      show (if s.thread.holdsLock then 0 else 2) ≤ 2
      split <;> omega
    omega
  | thread hthr howner =>
    have hb := h.rank_deviceOwner howner
    have hholds : s.thread.holdsLock = false := by
      revert hthr
      cases s.thread <;> decide
    have ht : rank s (.thread : Agent P) = 2 := by simp [rank, hholds]
    omega

theorem Inv.not_circularWait (h : Inv s) : ¬CircularWait s := by
  rintro ⟨a, hcycle⟩
  have hdecreases : ∀ b, Relation.TransGen (WaitsFor s) a b → rank s b < rank s a := by
    intro b hpath
    induction hpath with
    | single hwaits => exact h.rank_lt hwaits
    | tail _ hwaits ih => exact (h.rank_lt hwaits).trans ih
  exact Nat.lt_irrefl _ (hdecreases a hcycle)

theorem triggerKept_iff : s.triggerKept ↔ ∃ p, s.owner .trigger = some (.caller p) ∧ joins (s.todo p) := by
  unfold State.triggerKept
  split
  · rename_i p howner
    constructor
    · exact fun hjoins => ⟨p, howner, hjoins⟩
    · rintro ⟨q, hq, hjoins⟩
      rw [howner] at hq
      cases hq
      exact hjoins
  · rename_i hnone
    constructor
    · exact nofun
    · rintro ⟨q, hq, -⟩
      exact absurd hq (hnone q)

variable {p : P} {rest : List Instr}

theorem Inv.goOn [DecidableEq P] (h : Inv s) {owner : Lock → Option (Agent P)}
    (hord : WellOrdered rest) (hp : ∀ lock, owner lock = some (.caller p) ↔ holds lock rest)
    (hother : ∀ lock a, a ≠ .caller p → (owner lock = some a ↔ s.owner lock = some a))
    (hjoins : joins rest → holds .trigger rest → s.triggerKept ∨ owner .device = none)
    (hdev : holds .device rest → s.triggerKept → .acquire .trigger ∉ rest) :
    Inv { s with todo := update s.todo p rest, owner } := by
  refine ⟨fun q => ?_, fun lock q => ?_, fun lock => ?_, fun hkept q howner => ?_⟩
  · show WellOrdered (update s.todo p rest q)
    rw [update_apply]
    split
    · exact hord
    · exact h.wellOrdered q
  · show owner lock = some (.caller q) ↔ holds lock (update s.todo p rest q)
    rw [update_apply]
    split
    · rename_i hq
      rw [hq]
      exact hp lock
    · rename_i hq
      rw [hother lock (.caller q) (by simpa using hq)]
      exact h.owner_caller lock q
  · rw [show owner lock = some .thread ↔ s.owner lock = some .thread from hother lock .thread nofun]
    exact h.owner_thread lock
  · show .acquire .trigger ∉ update s.todo p rest q
    have howner : owner .device = some (.caller q) := howner
    obtain ⟨r, hr, hjoinsR⟩ := triggerKept_iff.mp hkept
    have hr : owner .trigger = some (.caller r) := hr
    have hjoinsR : joins (update s.todo p rest r) := hjoinsR
    have hbefore : s.triggerKept := by
      by_cases hrp : r = p
      · rw [hrp, Function.update_self] at hjoinsR
        rcases hjoins hjoinsR ((hp .trigger).mp (hrp ▸ hr)) with hbefore | hfree
        · exact hbefore
        · rw [hfree] at howner
          cases howner
      · rw [Function.update_of_ne hrp] at hjoinsR
        exact triggerKept_iff.mpr ⟨r, (hother .trigger (.caller r) (by simpa using hrp)).mp hr, hjoinsR⟩
    by_cases hqp : q = p
    · rw [hqp, Function.update_self]
      exact hdev ((hp .device).mp (hqp ▸ howner)) hbefore
    · rw [Function.update_of_ne hqp]
      exact h.kept hbefore q ((hother .device (.caller q) (by simpa using hqp)).mp howner)

variable [DecidableEq P] {t : State P} {lock : Lock}

theorem Inv.take (h : Inv s) (htake : take s lock p rest = some t)
    (hord : WellOrdered rest) (hholds : holds lock rest) (hjoins : joins rest = false)
    (hothers : ∀ l, l ≠ lock → holds l (s.todo p) = holds l rest)
    (hdev : holds .device rest → s.triggerKept → .acquire .trigger ∉ rest) : Inv t := by
  obtain ⟨hfree, htake⟩ := Option.ite_none_right_eq_some.mp htake
  cases htake
  apply h.goOn hord
  · intro l
    show update s.owner lock _ l = _ ↔ _
    rw [update_apply]
    split
    · rename_i hl
      rw [hl]
      exact ⟨fun _ => hholds, fun _ => rfl⟩
    · rename_i hl
      rw [h.owner_caller, hothers l hl]
  · intro l a ha
    show update s.owner lock _ l = _ ↔ _
    rw [update_apply]
    split
    · rename_i hl
      rw [hl, hfree]
      constructor
      · intro hsome
        exact absurd (Option.some.inj hsome).symm ha
      · exact nofun
    · exact Iff.rfl
  · rw [hjoins]
    exact nofun
  · exact hdev

theorem Inv.drop (h : Inv s) (hord : WellOrdered rest)
    (hheld : holds lock (s.todo p)) (hholds : holds lock rest = false)
    (hothers : ∀ l, l ≠ lock → holds l (s.todo p) = holds l rest) (hjoins : joins rest → lock = .device)
    (hdev : holds .device rest → s.triggerKept → .acquire .trigger ∉ rest) :
    Inv (setTodo (setOwner s lock none) p rest) := by
  apply h.goOn hord
  · intro l
    show update s.owner lock _ l = _ ↔ _
    rw [update_apply]
    split
    · rename_i hl
      rw [hl, hholds]
      exact ⟨nofun, nofun⟩
    · rename_i hl
      rw [h.owner_caller, hothers l hl]
  · intro l a ha
    show update s.owner lock _ l = _ ↔ _
    rw [update_apply]
    split
    · rename_i hl
      rw [hl, (h.owner_caller lock p).mpr hheld]
      constructor
      · exact nofun
      · intro hsome
        exact absurd (Option.some.inj hsome).symm ha
    · exact Iff.rfl
  · intro hjoined _
    right
    rw [hjoins hjoined]
    simp [setOwner]
  · exact hdev

theorem Inv.skip (h : Inv s) (hord : WellOrdered rest)
    (hholds : ∀ l, holds l (s.todo p) = holds l rest) (hjoins : joins rest → joins (s.todo p))
    (hdev : holds .device rest → s.triggerKept → .acquire .trigger ∉ rest) : Inv (setTodo s p rest) := by
  apply h.goOn hord
  · intro l
    rw [h.owner_caller, hholds]
  · exact fun _ _ _ => Iff.rfl
  · intro hjoined htrig
    left
    refine triggerKept_iff.mpr ⟨p, ?_, hjoins hjoined⟩
    rw [h.owner_caller, hholds]
    exact htrig
  · exact hdev

omit [DecidableEq P] in
theorem Inv.not_mem_of_kept (h : Inv s) {i : Instr} (htodo : s.todo p = i :: rest)
    (hdev : holds .device (i :: rest)) (hkept : s.triggerKept) : .acquire .trigger ∉ rest := by
  have hnot := h.kept hkept p ((h.owner_caller .device p).mpr (htodo ▸ hdev))
  rw [htodo] at hnot
  exact fun hmem => hnot (List.mem_cons_of_mem _ hmem)

omit [DecidableEq P] in
theorem not_mem_of_orderly (horderly : orderly s (.exec p))
    (htodo : s.todo p = .acquire .device :: rest ∨ s.todo p = .tryAcquire :: rest) (hkept : s.triggerKept) :
    .acquire .trigger ∉ rest := by
  rcases htodo with htodo | htodo <;> simpa [orderly, htodo, hkept] using horderly

theorem Inv.acquire (h : Inv s) (horderly : orderly s (.exec p))
    (htodo : s.todo p = .acquire lock :: rest) (htake : Locks.take s lock p rest = some t) : Inv t := by
  have hord := h.wellOrdered p
  rw [htodo] at hord
  have hothers : ∀ l, l ≠ lock → holds l (s.todo p) = holds l rest := by
    intro l hl
    simp [htodo, holds, Ne.symm hl]
  cases lock with
  | device =>
    obtain ⟨hholds, -, -, hjoins, hrest⟩ := hord
    exact h.take htake hrest hholds hjoins hothers fun _ => not_mem_of_orderly horderly (.inl htodo)
  | trigger =>
    obtain ⟨hholds, -, hjoins, hrest⟩ := hord
    exact h.take htake hrest hholds hjoins hothers fun hdev => h.not_mem_of_kept htodo (by simpa [holds] using hdev)
  | recording =>
    obtain ⟨hholds, -, hjoins, hrest⟩ := hord
    exact h.take htake hrest hholds hjoins hothers fun hdev => h.not_mem_of_kept htodo (by simpa [holds] using hdev)

theorem Inv.tryAcquire (h : Inv s) (horderly : orderly s (.exec p))
    (htodo : s.todo p = .tryAcquire :: rest) (htake : Locks.take s .device p rest = some t) : Inv t := by
  have hord := h.wellOrdered p
  rw [htodo] at hord
  obtain ⟨hholds, -, -, hjoins, hrest⟩ := hord
  refine h.take htake hrest hholds hjoins (fun l hl => ?_) fun _ => not_mem_of_orderly horderly (.inr htodo)
  simp [htodo, holds, hl]

theorem Inv.reacquire (h : Inv s) (htodo : s.todo p = .reacquire :: rest)
    (htake : Locks.take s .device p rest = some t) : Inv t := by
  have hord := h.wellOrdered p
  rw [htodo] at hord
  obtain ⟨hholds, -, hjoins, hnot, hrest⟩ := hord
  refine h.take htake hrest hholds hjoins (fun l hl => ?_) fun _ _ => hnot
  simp [htodo, holds, hl]

theorem Inv.release (h : Inv s) (htodo : s.todo p = .release lock :: rest) :
    Inv (setTodo (setOwner s lock none) p rest) := by
  have hord := h.wellOrdered p
  rw [htodo] at hord
  obtain ⟨hholds, hjoins, hrest⟩ := hord
  refine h.drop hrest (by simp [htodo, holds]) hholds (fun l hl => ?_) (by simp [hjoins]) fun hdev => ?_
  · simp [htodo, holds, Ne.symm hl]
  · exact h.not_mem_of_kept htodo (by simp [holds, hdev])

theorem Inv.createThread (h : Inv s) (htodo : s.todo p = .createThread :: rest) : Inv (setTodo s p rest) := by
  have hord := h.wellOrdered p
  rw [htodo] at hord
  refine h.skip hord.2 (fun l => ?_) (by simp [hord.1]) fun hdev => h.not_mem_of_kept htodo hdev
  rw [htodo, holds]

omit [DecidableEq P] in
theorem Inv.threadStarts (h : Inv s) (hended : s.thread = .ended) (id : Nat) :
    Inv { s with threadId := id, thread := .starts } := by
  refine ⟨h.wellOrdered, h.owner_caller, fun lock => ?_, h.kept⟩
  have howner := h.owner_thread lock
  rw [hended] at howner
  exact howner

theorem Inv.beginJoin (h : Inv s) (htodo : s.todo p = .beginJoin :: .readThread :: .reacquire :: rest) :
    Inv (setTodo (setOwner s .device none) p (.readThread :: .reacquire :: rest)) := by
  have hord := h.wellOrdered p
  rw [htodo] at hord
  refine h.drop hord.2 (by simp [htodo, holds]) (by simp [holds]) (fun l hl => ?_) (fun _ => rfl) (by simp [holds])
  simp [htodo, holds, hl]

theorem Inv.skipJoin (h : Inv s)
    (htodo : s.todo p = .beginJoin :: .readThread :: .reacquire :: rest) : Inv (setTodo s p rest) := by
  have hord := h.wellOrdered p
  rw [htodo] at hord
  obtain ⟨-, -, -, -, hholds, -, hjoins, hnot, hrest⟩ := hord
  refine h.skip hrest (fun l => ?_) (by simp [hjoins]) fun _ _ => hnot
  by_cases hl : l = .device
  · simp [htodo, holds, hl, hholds]
  · simp [htodo, holds, hl]

theorem Inv.readThread (h : Inv s) (htodo : s.todo p = .readThread :: rest) (id : Nat) :
    Inv (setTodo s p (.awaitThread id :: rest)) := by
  have hord := h.wellOrdered p
  rw [htodo] at hord
  refine h.skip hord (fun l => ?_) (fun _ => ?_) (by simp [holds])
  · simp [htodo, holds]
  · simp [htodo, joins]

theorem Inv.awaitThread (h : Inv s) {id : Nat}
    (htodo : s.todo p = .awaitThread id :: rest) : Inv (setTodo s p rest) := by
  have hord := h.wellOrdered p
  rw [htodo] at hord
  obtain ⟨hdev, -, -, hrest⟩ := hord
  refine h.skip hrest (fun l => ?_) (fun _ => ?_) (by simp [hdev])
  · by_cases hl : l = .device
    · simp [htodo, holds, hl, hdev]
    · simp [htodo, holds, hl]
  · simp [htodo, joins]

theorem Inv.exec (h : Inv s) (horderly : orderly s (.exec p)) (hexec : exec s p = some t) : Inv t := by
  unfold Locks.exec at hexec
  split at hexec <;> rename_i htodo
  · exact h.acquire horderly htodo hexec
  · exact h.tryAcquire horderly htodo hexec
  · cases hexec
    exact h.release htodo
  · split at hexec <;> cases hexec
    · rename_i hended
      exact (h.createThread htodo).threadStarts hended _
    · exact h.createThread htodo
  · split at hexec <;> cases hexec
    · exact h.skipJoin htodo
    · exact h.beginJoin htodo
  · cases hexec
    exact h.readThread htodo _
  · split at hexec <;> cases hexec
    exact h.awaitThread htodo
  · exact h.reacquire htodo hexec
  · cases hexec

theorem Inv.call (h : Inv s) (hidle : s.todo p = []) (c : Call) : Inv (setTodo s p c.program) := by
  refine h.skip (wellOrdered_program c) (fun l => ?_) ?_ ?_
  · rw [hidle, holds_program, holds]
  · simp [joins_program]
  · simp [holds_program]

theorem Inv.giveUp (h : Inv s) (htodo : (s.todo p).head? = some .tryAcquire) : Inv (setTodo s p []) := by
  obtain ⟨rest, hrest⟩ := List.head?_eq_some_iff.mp htodo
  have hord := h.wellOrdered p
  rw [hrest] at hord
  obtain ⟨-, htrig, hrec, -⟩ := hord
  refine h.skip trivial (fun l => ?_) nofun nofun
  cases l <;> simp [hrest, holds, htrig, hrec]

omit [DecidableEq P] in
theorem Inv.threadOwns (h : Inv s) {owner : Option (Agent P)} {pc : ThreadPc}
    (hbefore : ∀ p, s.owner .device ≠ some (.caller p)) (hafter : owner = if pc.holdsLock then some .thread else none) :
    Inv { setOwner s .device owner with thread := pc } := by
  have hcaller : ∀ lock p, update s.owner .device owner lock = some (.caller p) ↔
      s.owner lock = some (.caller p) := by
    intro lock p
    rw [update_apply]
    split
    · rename_i hlock
      rw [hlock, hafter]
      refine ⟨fun howner => ?_, fun howner => absurd howner (hbefore p)⟩
      split at howner <;> cases howner
    · exact Iff.rfl
  refine ⟨h.wellOrdered, fun lock p => ?_, fun lock => ?_, fun hkept p howner => ?_⟩
  · exact (hcaller lock p).trans (h.owner_caller lock p)
  · show update s.owner .device owner lock = some .thread ↔ lock = .device ∧ pc.holdsLock
    rw [update_apply]
    split
    · rename_i hlock
      rw [hafter]
      simp [hlock]
    · rename_i hlock
      rw [h.owner_thread]
      simp [hlock]
  · exact absurd ((hcaller .device p).mp howner) (hbefore p)

omit [DecidableEq P] in
theorem Inv.not_caller_of_holdsLock (h : Inv s) (hholds : s.thread.holdsLock) (p : P) :
    s.owner .device ≠ some (.caller p) := by
  rw [(h.owner_thread .device).mpr ⟨rfl, hholds⟩]
  exact nofun

omit [DecidableEq P] in
theorem Inv.threadStep (h : Inv s) {a : ThreadAction} (hstep : threadStep s a = some t) : Inv t := by
  cases a with
  | lock =>
    obtain ⟨hfree, hstep⟩ := Option.ite_none_right_eq_some.mp hstep
    have hbefore : ∀ p, s.owner .device ≠ some (.caller p) := by simp [hfree]
    split at hstep <;> cases hstep <;> exact h.threadOwns hbefore rfl
  | unlock =>
    obtain ⟨hholds, hstep⟩ := Option.ite_none_right_eq_some.mp hstep
    cases hstep
    exact h.threadOwns (h.not_caller_of_holdsLock hholds) rfl
  | pollReturns =>
    obtain ⟨hpolls, hstep⟩ := Option.ite_none_right_eq_some.mp hstep
    cases hstep
    refine ⟨h.wellOrdered, h.owner_caller, fun lock => ?_, h.kept⟩
    have howner := h.owner_thread lock
    rw [hpolls] at howner
    exact howner
  | exit =>
    obtain ⟨hhnds, hstep⟩ := Option.ite_none_right_eq_some.mp hstep
    cases hstep
    exact h.threadOwns (h.not_caller_of_holdsLock (by rw [hhnds]; rfl)) rfl

theorem Inv.step (h : Inv s) {i : Input P} (horderly : orderly s i) (hstep : step s i = some t) : Inv t := by
  cases i with
  | call p c =>
    obtain ⟨hidle, hstep⟩ := Option.ite_none_right_eq_some.mp hstep
    cases hstep
    exact h.call hidle c
  | exec p => exact h.exec horderly hstep
  | giveUp p =>
    obtain ⟨⟨htodo, -⟩, hstep⟩ := Option.ite_none_right_eq_some.mp hstep
    cases hstep
    exact h.giveUp htodo
  | thread a => exact h.threadStep hstep

/-- If no caller keeps `trigger_lock` over a join that another one holds up, nobody waits for himself. -/
theorem not_circularWait_run {inputs : List (Input P)}
    (horderly : EachDefinedStep step (fun s i => orderly s i) initial inputs)
    (hrun : inputs.foldlM step initial = some s) : ¬CircularWait s := by
  have hinv : Inv s := by
    refine foldlM_keeps_of_eachDefinedStep (P := Inv) ?_ inv_initial horderly hrun
    intro s t i hs hi hstep
    exact hs.step hi hstep
  exact hinv.not_circularWait

end

attribute [local instance] neZero_two

def startFirst : List (Input (Fin 2)) := [.call 0 (.startRecognition true), .exec 0, .exec 0, .exec 0, .exec 0, .exec 0]

def stopFirst : List (Input (Fin 2)) := [.call 0 (.stopRecognition true), .exec 0, .exec 0, .exec 0, .exec 0]

def startBehindThread : List (Input (Fin 2)) :=
  startFirst ++ [.thread .lock, .call 1 (.startRecognition true), .call 0 (.stopRecognition true)]

theorem not_circularWait_run_startBehindThread :
    ∃ s, startBehindThread.foldlM step initial = some s ∧ WaitsFor s (.caller 1) .thread ∧
      EachDefinedStep step (fun s i => orderly s i) initial startBehindThread ∧ ¬CircularWait s := by
  have horderly : EachDefinedStep step (fun s i => orderly s i) initial startBehindThread := by decide
  exact ⟨_, rfl, .lock rfl rfl, horderly, not_circularWait_run horderly rfl⟩

def startDuringStop : List (Input (Fin 2)) := startFirst ++ stopFirst ++ [.call 1 (.startRecognition true), .exec 1]

theorem circularWait_startDuringStop :
    ¬∀ (inputs : List (Input (Fin 2))) (s : State (Fin 2)), inputs.foldlM step initial = some s → ¬CircularWait s := by
  intro h
  refine h startDuringStop _ rfl ⟨.caller 0, ?_⟩
  refine .tail (b := .caller 1) (.tail (b := .thread) (.single ?_) ?_) ?_
  · exact .join rfl (by decide)
  · exact .thread rfl rfl
  · exact .lock rfl rfl

end ExynosHal.SoundTrigger.Locks
