import ExynosHal.Library.Words
import Mathlib.Tactic
import ExynosHal.Library.Run

/-! # The audio device as a singleton

`adev_open` and `adev_close` with the static `instance` and `adev_ref_count`. A use of freed memory is
undefined, `none`.
-/

namespace ExynosHal.Audio.Instance
open Library.Run
open BitVec (allOnes)
open Function (update update_self)

/-- `struct audio_device`, zero after `calloc`. -/
structure Device where
  lockReady : Bool := false
  functionsMapped : Bool := false
  proxy : Option Nat := none
  isRouteCreated : Bool := false
  valuesSet : Bool := false
  factory : Bool := false
  voice : Bool := false
  deriving DecidableEq

/-- The statics and the memory, with what the callers hold: the devices handed out and not closed yet, and how many
calls of each kind have been made with success. -/
structure State where
  pointer : Option Nat := none
  refCount : U32 := 0
  next : Nat := 0
  devices : Nat → Option Device := fun _ => none
  nextProxy : Nat := 0
  proxies : Nat → Bool := fun _ => false
  handles : List Nat := []
  opened : Nat := 0
  closed : Nat := 0

def einval : Int := -22
def enomem : Int := -12
def enosys : Int := -38

/-- A call of `adev_open`: whether the name is `AUDIO_HARDWARE_INTERFACE`, and what `calloc`, `proxy_init`,
`adev_init_route` and `factory_init` answer. -/
structure Request where
  nameOk : Bool := true
  callocOk : Bool := true
  proxyInitOk : Bool := true
  initRouteOk : Bool := true
  factoryInitOk : Bool := true
  deriving DecidableEq

namespace State

variable (s : State)

def setDevice (a : Nat) (d : Option Device) : State := { s with devices := update s.devices a d }

def allocate : State := { s.setDevice s.next (some {}) with pointer := some s.next, next := s.next + 1 }

def getAudioDeviceInstance (callocOk : Bool) : State :=
  if s.pointer = none ∧ callocOk then s.allocate else s

def destroyAudioDeviceInstance : Option State :=
  match s.pointer with
  | none => some s
  | some a => (s.devices a).map fun _ => { s.setDevice a none with pointer := none }

def proxyInit : State := { s with proxies := update s.proxies s.nextProxy true, nextProxy := s.nextProxy + 1 }

def proxyDeinit (proxy : Option Nat) : State :=
  match proxy with
  | none => s
  | some p => { s with proxies := update s.proxies p false }

/-- The label `err_open`, which frees the device and leaves `instance`. -/
def errOpen (a : Nat) (proxy : Option Nat) : State × Int := ((s.proxyDeinit proxy).setDevice a none, enosys)

def handOut (a : Nat) : State :=
  { s with refCount := s.refCount + 1, handles := s.handles ++ [a], opened := s.opened + 1 }

def prepared (d : Device) (proxy : Nat) (factoryInitOk : Bool) : Device := { d with
    lockReady := true, functionsMapped := true, proxy := some proxy, isRouteCreated := true, valuesSet := true,
    factory := factoryInitOk }

/-- `adev_open` for the first user. -/
def initDevice (a : Nat) (d : Device) (r : Request) : State × Int :=
  if ¬r.proxyInitOk then s.errOpen a none
  else if ¬r.initRouteOk then s.proxyInit.errOpen a (some s.nextProxy)
  else ((s.proxyInit.setDevice a (some (prepared d s.nextProxy r.factoryInitOk))).handOut a, 0)

def adevOpen (r : Request) : Option (State × Int) :=
  if ¬r.nameOk then some (s, einval)
  else
    let s := s.getAudioDeviceInstance r.callocOk
    match s.pointer with
    | none => some (s, enomem)
    | some a =>
      if s.refCount ≠ 0 then some (s.handOut a, 0)
      else (s.devices a).map fun d => s.initDevice a d r

/-- The part of `adev_close` for the last user: voice, route and proxy are released in the device given, the
device freed is `instance`. -/
def lastClose (a : Nat) : Option State := do
  let d ← s.devices a
  ((s.proxyDeinit d.proxy).setDevice a (some { d with voice := false, proxy := none })).destroyAudioDeviceInstance

def adevClose (a : Nat) : Option State :=
  let s := { s with refCount := s.refCount - 1, closed := s.closed + 1 }
  if s.refCount = 0 then s.lastClose a else some s

end State

/-- A close is for one of the devices handed out; without one it is not called. -/
inductive Action where
  | request (r : Request)
  | close (i : Nat)

def step (s : State) : Action → Option State
  | .request r => (s.adevOpen r).map Prod.fst
  | .close i =>
    match s.handles[i]? with
    | none => some s
    | some a => { s with handles := s.handles.eraseIdx i }.adevClose a

structure Initialized (proxies : Nat → Bool) (d : Device) : Prop where
  lockReady : d.lockReady
  functionsMapped : d.functionsMapped
  isRouteCreated : d.isRouteCreated
  valuesSet : d.valuesSet
  proxy : ∃ p, d.proxy = some p ∧ proxies p

def State.Ready (s : State) : Prop := ∃ a d, s.pointer = some a ∧ s.devices a = some d ∧ Initialized s.proxies d

structure Sound (s : State) : Prop where
  live : ∀ a, s.pointer = some a → (s.devices a).isSome
  ready : s.Ready ↔ s.refCount ≠ 0
  counted : s.opened = s.closed + s.refCount.toNat

def FailureKeeps (s : State) : Action → Prop
  | .request r => ∀ s' ret, s.adevOpen r = some (s', ret) → ret ≠ 0 → s'.pointer = s.pointer ∧ s'.refCount = s.refCount
  | .close _ => True

def Survives (s : State) (action : Action) : Prop := (∃ s', step s action = some s' ∧ Sound s') ∧ FailureKeeps s action

/-- A first open does not fail after the allocation, and there are fewer than 2^32 - 1 users before a further one. -/
def meets (s : State) : Action → Bool
  | .request r => !r.nameOk || (if s.refCount = 0 then !r.callocOk || (r.proxyInitOk && r.initRouteOk)
      else s.refCount != allOnes 32)
  | .close _ => true

/-- Without users there is no instance, and all of them have the one that is live. -/
structure Inv (s : State) : Prop where
  sound : Sound s
  unused : s.refCount = 0 → s.pointer = none
  handles : ∀ a ∈ s.handles, s.pointer = some a
  users : s.handles.length = s.refCount.toNat

theorem not_ready_of_pointer {s : State} (h : s.pointer = none) : ¬s.Ready := by
  rintro ⟨a, d, hptr, -, -⟩
  rw [h] at hptr
  cases hptr

theorem inv_boot : Inv {} := by
  refine ⟨⟨?_, iff_of_false (not_ready_of_pointer rfl) (not_not.mpr rfl), rfl⟩, fun _ => rfl, ?_, rfl⟩
  · intro a h
    cases h
  · intro a h
    cases h

section
variable {s : State} {a : Nat} {r : Request}

theorem toNat_add_one {n : U32} (h : n ≠ allOnes 32) : (n + 1).toNat = n.toNat + 1 := by
  have hne : n.toNat ≠ 4294967295 := fun heq => h (BitVec.eq_of_toNat_eq heq)
  have hlt := n.isLt
  have hone : (1 : U32).toNat = 1 := rfl
  rw [BitVec.toNat_add, hone]
  exact Nat.mod_eq_of_lt (by omega)

theorem add_one_ne_zero {n : U32} (h : n ≠ allOnes 32) : n + 1 ≠ 0 := by
  intro hzero
  have hsum := toNat_add_one h
  rw [hzero] at hsum
  cases hsum

theorem inv_handOut (hptr : s.pointer = some a) (hready : s.Ready) (hcounted : s.opened = s.closed + s.refCount.toNat)
    (hhnds : ∀ b ∈ s.handles, s.pointer = some b) (husers : s.handles.length = s.refCount.toNat)
    (hmax : s.refCount ≠ allOnes 32) : Inv (s.handOut a) where
  sound := by
    obtain ⟨b, d, hb, hd, hinit⟩ := hready
    refine ⟨fun c hc => ?_, iff_of_true ⟨b, d, hb, hd, hinit⟩ (add_one_ne_zero hmax), ?_⟩
    · have hsame : b = c := Option.some.inj (hb.symm.trans hc)
      exact hsame ▸ Option.isSome_iff_exists.mpr ⟨d, hd⟩
    · have hsum := toNat_add_one hmax
      simp only [State.handOut]
      omega
  unused h := absurd h (add_one_ne_zero hmax)
  handles b hb := by
    rcases List.mem_append.mp hb with hb | hb
    · exact hhnds b hb
    · rw [List.mem_singleton.mp hb]
      exact hptr
  users := by
    simp only [State.handOut, List.length_append, List.length_singleton, toNat_add_one hmax, husers]

theorem handOut_not_sound (hcounted : s.opened = s.closed + s.refCount.toNat) (hmax : s.refCount = allOnes 32) :
    ¬Sound (s.handOut a) := by
  intro h
  have hcnt := h.counted
  simp only [State.handOut, hmax] at hcnt hcounted
  simp at hcnt hcounted
  omega

theorem adevOpen_used (h : Inv s) (hused : s.refCount ≠ 0) (hname : r.nameOk) :
    ∃ a, s.pointer = some a ∧ s.adevOpen r = some (s.handOut a, 0) := by
  obtain ⟨a, d, hptr, -, -⟩ := h.sound.ready.mpr hused
  refine ⟨a, hptr, ?_⟩
  have hsame : s.getAudioDeviceInstance r.callocOk = s := by
    rw [State.getAudioDeviceInstance, hptr, if_neg]
    simp
  simp only [State.adevOpen, hname, hsame, hptr, not_true_eq_false, if_false, if_pos hused]

theorem adevOpen_unused (h : Inv s) (hunused : s.refCount = 0) (hname : r.nameOk) :
    s.adevOpen r = some (if r.callocOk then s.allocate.initDevice s.next {} r else (s, enomem)) := by
  have hptr := h.unused hunused
  cases hcalloc : r.callocOk with
  | false => simp [State.adevOpen, hname, State.getAudioDeviceInstance, hcalloc, hptr]
  | true => simp [State.adevOpen, hname, State.getAudioDeviceInstance, hcalloc, hptr, State.allocate, State.setDevice,
      hunused]

theorem inv_initDevice (h : Inv s) (hunused : s.refCount = 0) (hproxy : r.proxyInitOk)
    (hroute : r.initRouteOk) : ∃ s', s.allocate.initDevice s.next {} r = (s', 0) ∧ Inv s' := by
  have hnone : s.handles = [] := List.length_eq_zero_iff.mp (h.users.trans (congrArg BitVec.toNat hunused))
  refine ⟨(s.allocate.proxyInit.setDevice s.next (some (State.prepared {} s.nextProxy r.factoryInitOk))).handOut s.next,
    by rw [State.initDevice, hproxy, hroute]; rfl, inv_handOut rfl ?_ h.sound.counted ?_ h.users ?_⟩
  · refine ⟨s.next, _, rfl, update_self _ _ _, ⟨rfl, rfl, rfl, rfl, s.nextProxy, rfl, ?_⟩⟩
    exact update_self _ _ _
  · intro b hb
    have hmem : b ∈ s.handles := hb
    rw [hnone] at hmem
    cases hmem
  · intro hmax
    have hsame : s.refCount = allOnes 32 := hmax
    rw [hunused] at hsame
    exact absurd hsame (by decide)

theorem initDevice_failed (d : Device) (h : ¬(r.proxyInitOk ∧ r.initRouteOk)) :
    ∃ s', s.initDevice a d r = (s', enosys) ∧ s'.pointer = s.pointer := by
  rw [State.initDevice]
  split
  · exact ⟨_, rfl, rfl⟩
  · rename_i hproxy
    rw [if_pos fun hroute => h ⟨not_not.mp hproxy, hroute⟩]
    exact ⟨_, rfl, rfl⟩

theorem inv_request (h : Inv s) (hmeets : meets s (.request r)) :
    ∃ s' ret, s.adevOpen r = some (s', ret) ∧ Inv s' ∧ (ret ≠ 0 → s' = s) := by
  cases hname : r.nameOk with
  | false => exact ⟨s, einval, by simp [State.adevOpen, hname], h, fun _ => rfl⟩
  | true =>
    rcases eq_or_ne s.refCount 0 with hunused | hused
    · rw [adevOpen_unused h hunused hname]
      cases hcalloc : r.callocOk with
      | false => exact ⟨s, enomem, rfl, h, fun _ => rfl⟩
      | true =>
        have hinit : r.proxyInitOk ∧ r.initRouteOk := by
          simpa [meets, hname, hunused, hcalloc] using hmeets
        obtain ⟨s', hready, hinv⟩ := inv_initDevice h hunused hinit.1 hinit.2
        exact ⟨s', 0, congrArg some hready, hinv, fun hne => absurd rfl hne⟩
    · obtain ⟨a, hptr, hopen⟩ := adevOpen_used h hused hname
      have hmax : s.refCount ≠ allOnes 32 := by
        rw [meets, if_neg hused, hname] at hmeets
        simpa using hmeets
      exact ⟨_, 0, hopen, inv_handOut hptr (h.sound.ready.mpr hused) h.sound.counted h.handles h.users hmax,
        fun hne => absurd rfl hne⟩

theorem not_survives_request (h : Inv s) (hmeets : ¬meets s (.request r)) : ¬Survives s (.request r) := by
  rintro ⟨⟨s', hs', hsound⟩, hkeeps⟩
  have hname : r.nameOk := by
    by_contra hname
    exact hmeets (by simp [meets, hname])
  rcases eq_or_ne s.refCount 0 with hunused | hused
  · have hopen := adevOpen_unused h hunused hname
    have hcalloc : r.callocOk := by
      by_contra hcalloc
      exact hmeets (by simp [meets, hunused, hcalloc])
    have hfails : ¬(r.proxyInitOk = true ∧ r.initRouteOk = true) := fun hinit =>
      hmeets (by simp [meets, hunused, hinit.1, hinit.2])
    obtain ⟨t, hfailed, hptr⟩ := initDevice_failed (s := s.allocate) (a := s.next) {} hfails
    rw [hcalloc, if_pos rfl, hfailed] at hopen
    have hsame := (hkeeps t enosys hopen (by decide)).1
    rw [hptr, h.unused hunused] at hsame
    cases hsame
  · obtain ⟨a, -, hopen⟩ := adevOpen_used h hused hname
    have hmax : s.refCount = allOnes 32 := by
      by_contra hmax
      refine hmeets ?_
      rw [meets, if_neg hused, hname]
      simpa using hmax
    rw [step, hopen] at hs'
    cases hs'
    exact handOut_not_sound h.sound.counted hmax hsound

end

section
variable {s : State}

theorem toNat_sub_one {n : U32} (h : 0 < n.toNat) : (n - 1).toNat + 1 = n.toNat := by
  have hlt := n.isLt
  have hone : (1 : U32).toNat = 1 := rfl
  rw [BitVec.toNat_sub, hone]
  omega

structure SameUsers (s t : State) : Prop where
  refCount : t.refCount = s.refCount
  handles : t.handles = s.handles
  opened : t.opened = s.opened
  closed : t.closed = s.closed

theorem sameUsers_proxyDeinit (s : State) (proxy : Option Nat) : SameUsers s (s.proxyDeinit proxy) := by
  cases proxy <;> exact ⟨rfl, rfl, rfl, rfl⟩

theorem pointer_proxyDeinit (s : State) (proxy : Option Nat) : (s.proxyDeinit proxy).pointer = s.pointer := by
  cases proxy <;> rfl

theorem lastClose_eq {a : Nat} {d : Device} (hptr : s.pointer = some a) (hd : s.devices a = some d) :
    ∃ t, s.lastClose a = some t ∧ t.pointer = none ∧ SameUsers s t := by
  have hkept : ((s.proxyDeinit d.proxy).setDevice a (some { d with voice := false, proxy := none })).pointer = some a :=
    (pointer_proxyDeinit s d.proxy).trans hptr
  have hlive : ((s.proxyDeinit d.proxy).setDevice a (some { d with voice := false, proxy := none })).devices a =
      some { d with voice := false, proxy := none } := update_self _ _ _
  have husers := sameUsers_proxyDeinit s d.proxy
  rw [State.lastClose, hd, Option.bind_eq_bind, Option.bind_some, State.destroyAudioDeviceInstance, hkept]
  dsimp only
  rw [hlive]
  exact ⟨_, rfl, rfl, ⟨husers.refCount, husers.handles, husers.opened, husers.closed⟩⟩

theorem inv_close (h : Inv s) {i a : Nat} (hi : s.handles[i]? = some a) :
    ∃ s', { s with handles := s.handles.eraseIdx i }.adevClose a = some s' ∧ Inv s' := by
  have hmem : a ∈ s.handles := List.mem_of_getElem? hi
  have hptr := h.handles a hmem
  have hlen : s.handles.length = s.refCount.toNat := h.users
  have hpos : 0 < s.refCount.toNat := hlen ▸ List.length_pos_of_mem hmem
  have hsub := toNat_sub_one hpos
  have herase : (s.handles.eraseIdx i).length + 1 = s.handles.length := by
    obtain ⟨hlt, -⟩ := List.getElem?_eq_some_iff.mp hi
    rw [List.length_eraseIdx_of_lt hlt]
    omega
  have hcounted := h.sound.counted
  have hused : s.refCount ≠ 0 := by
    intro hzero
    rw [hzero] at hpos
    cases hpos
  obtain ⟨b, d, hb, hd, hinit⟩ := h.sound.ready.mpr hused
  obtain rfl : a = b := Option.some.inj (hptr.symm.trans hb)
  rw [State.adevClose]
  dsimp only
  split
  · rename_i hzero
    have hlast : s.refCount.toNat = 1 := by
      rw [hzero] at hsub
      exact hsub.symm
    have hempty : s.handles.eraseIdx i = [] := List.length_eq_zero_iff.mp (by omega)
    obtain ⟨t, ht, hptr', hcnt⟩ := lastClose_eq (s := { s with
      refCount := s.refCount - 1, closed := s.closed + 1, handles := s.handles.eraseIdx i }) hptr hd
    obtain ⟨hrefCnt, hhnds, hopened, hclosed⟩ := hcnt
    refine ⟨t, ht, ⟨⟨?_, iff_of_false (not_ready_of_pointer hptr') ?_, ?_⟩, fun _ => hptr', ?_, ?_⟩⟩
    · intro c hc
      rw [hptr'] at hc
      cases hc
    · rw [hrefCnt, hzero]
      exact not_not.mpr rfl
    · rw [hrefCnt, hopened, hclosed]
      dsimp only
      omega
    · intro c hc
      rw [hhnds, hempty] at hc
      cases hc
    · rw [hrefCnt, hhnds, hempty, hzero]
      rfl
  · rename_i hmore
    refine ⟨_, rfl, ⟨⟨h.sound.live, iff_of_true ⟨a, d, hb, hd, hinit⟩ hmore, ?_⟩, fun hzero => absurd hzero hmore, ?_,
      ?_⟩⟩
    · dsimp only
      omega
    · intro c hc
      exact h.handles c (List.mem_of_mem_eraseIdx hc)
    · dsimp only
      omega

end

theorem inv_step {s : State} (h : Inv s) {action : Action} (hmeets : meets s action) :
    (∃ s', step s action = some s' ∧ Inv s') ∧ FailureKeeps s action := by
  cases action with
  | request r =>
    obtain ⟨s', ret, hopen, hinv, hfailed⟩ := inv_request h hmeets
    refine ⟨⟨s', congrArg (Option.map Prod.fst) hopen, hinv⟩, fun t ret' hret hne => ?_⟩
    rw [hopen] at hret
    cases hret
    rw [hfailed hne]
    exact ⟨rfl, rfl⟩
  | close i =>
    refine ⟨?_, trivial⟩
    rw [step]
    cases hi : s.handles[i]? with
    | none => exact ⟨s, rfl, h⟩
    | some a => exact inv_close h hi

theorem survives_iff {s : State} (h : Inv s) (action : Action) : Survives s action ↔ meets s action := by
  constructor
  · intro hsurvives
    by_contra hmeets
    cases action with
    | request r => exact not_survives_request h hmeets hsurvives
    | close i => exact hmeets rfl
  · intro hmeets
    obtain ⟨⟨s', hs', hinv⟩, hkeeps⟩ := inv_step h hmeets
    exact ⟨⟨s', hs', hinv.sound⟩, hkeeps⟩

/-- The statics stay sound, and failed opens leave them alone, in every step of a run just when every open in it is one
of these. -/
theorem run_survives_iff (actions : List Action) :
    EachDefinedStep step Survives {} actions ↔ EachDefinedStep step (fun s action => meets s action = true)
      {} actions :=
  eachDefinedStep_iff_of_kept (fun _ action hs => survives_iff hs action) (fun s action hs hsurvives s' hs' => by
    obtain ⟨⟨t, ht, hinv⟩, -⟩ := inv_step hs ((survives_iff hs action).mp hsurvives)
    cases ht.symm.trans hs'
    exact hinv) inv_boot

/-- An open that fails in `proxy_init` leaves a dangling pointer, and the next one works on freed memory. -/
theorem proxyInit_failure_dangles :
    (∃ s', step {} (.request { proxyInitOk := false }) = some s' ∧ s'.pointer = some 0 ∧ s'.devices 0 = none ∧
      step s' (.request {}) = none) ∧
    ¬EachDefinedStep step Survives {} [.request { proxyInitOk := false }] := by
  refine ⟨⟨_, rfl, rfl, rfl, rfl⟩, ?_⟩
  rintro ⟨⟨-, hkeeps⟩, -⟩
  have hsame := (hkeeps _ enosys rfl (by decide)).1
  cases hsame

end ExynosHal.Audio.Instance
