import Mathlib.Data.List.AList
import Mathlib.Tactic

/-! # Cooling devices

Every algorithm item keeps one request, under its name, in each device it limits. A device whose level table
is shorter than the level has no result: the source reads past the table there.
-/

namespace ExynosHal.Thermal
open Function (update update_of_ne update_self)

inductive DeviceKind where
  | base
  | camera
  | cpuFreq
  | report
  | dummy
  deriving DecidableEq

structure DeviceInfo where
  kind : DeviceKind
  leveltoValue : List String

structure DeviceState where
  request : AList fun _ : String => Int := ∅
  currentStatus : Int := 0
  node : Option String := none

namespace DeviceState

def getLowestStatus (d : DeviceState) : Int := d.request.entries.foldl (fun i r => if r.2 > i then r.2 else i) 0

def deviceControl (d : DeviceState) (algoName : String) (action : Int) : DeviceState :=
  { d with request := d.request.insert algoName action }

def applyLevel (leveltoValue : List String) (d : DeviceState) : Option DeviceState :=
  if leveltoValue = [] then some d
  else
    match leveltoValue[d.getLowestStatus.toNat]? with
    | none => none
    | some writeVal =>
      if d.currentStatus = d.getLowestStatus then some d
      else some { d with node := some writeVal, currentStatus := d.getLowestStatus }

def applyReport (d : DeviceState) : DeviceState := { d with
    request := d.request.entries.foldl
      (fun request r => if r.2 = 1 ∨ r.2 = 0 then request.insert r.1 2 else request) d.request }

def statusApply (info : DeviceInfo) (d : DeviceState) : Option DeviceState :=
  match info.kind with
  | .base | .camera | .cpuFreq => d.applyLevel info.leveltoValue
  | .report => some d.applyReport
  | .dummy => some { d with currentStatus := d.getLowestStatus }

theorem foldl_deepest_le_iff (requests : List (Sigma fun _ : String => Int)) (start m : Int) :
    requests.foldl (fun i r => if r.2 > i then r.2 else i) start ≤ m ↔ start ≤ m ∧ ∀ r ∈ requests, r.2 ≤ m := by
  induction requests generalizing start with
  | nil => simp
  | cons r requests ih =>
    rw [List.foldl_cons, ih, List.forall_mem_cons]
    split
    · constructor
      · rintro ⟨hr, hrest⟩
        exact ⟨by omega, hr, hrest⟩
      · rintro ⟨-, hr, hrest⟩
        exact ⟨hr, hrest⟩
    · constructor
      · rintro ⟨hstart, hrest⟩
        exact ⟨hstart, by omega, hrest⟩
      · rintro ⟨hstart, -, hrest⟩
        exact ⟨hstart, hrest⟩

theorem getLowestStatus_le_iff (d : DeviceState) (m : Int) :
    d.getLowestStatus ≤ m ↔ 0 ≤ m ∧ ∀ name v, d.request.lookup name = some v → v ≤ m := by
  rw [getLowestStatus, foldl_deepest_le_iff]
  constructor
  · rintro ⟨hm, hall⟩
    refine ⟨hm, fun name v hv => ?_⟩
    exact hall ⟨name, v⟩ (AList.mem_lookup_iff.mp hv)
  · rintro ⟨hm, hall⟩
    refine ⟨hm, ?_⟩
    rintro ⟨name, v⟩ hr
    exact hall name v (AList.mem_lookup_iff.mpr hr)

theorem getLowestStatus_nonneg (d : DeviceState) : 0 ≤ d.getLowestStatus := ((d.getLowestStatus_le_iff _).mp le_rfl).1

def InTable (info : DeviceInfo) (d : DeviceState) : Prop :=
  ∀ name v, d.request.lookup name = some v → v < max 1 info.leveltoValue.length

variable {info : DeviceInfo} {d : DeviceState}

theorem InTable.getLowestStatus_lt (h : d.InTable info) : d.getLowestStatus < max 1 info.leveltoValue.length := by
  have hle : d.getLowestStatus ≤ max 1 (info.leveltoValue.length : Int) - 1 := by
    rw [getLowestStatus_le_iff]
    refine ⟨by omega, fun name v hv => ?_⟩
    have hv := h name v hv
    omega
  omega

structure Settled (info : DeviceInfo) (d : DeviceState) : Prop where
  currentStatus : d.currentStatus = d.getLowestStatus
  inTable : info.kind ≠ .dummy → d.InTable info

theorem applyLevel_settles (htable : d.InTable info) (hempty : info.leveltoValue = [] → d.currentStatus = 0) :
    ∃ d', d.applyLevel info.leveltoValue = some d' ∧ d'.request = d.request ∧ d'.currentStatus = d.getLowestStatus := by
  have hlow := d.getLowestStatus_nonneg
  have hlt := htable.getLowestStatus_lt
  rw [applyLevel]
  by_cases hnil : info.leveltoValue = []
  · have hlen : info.leveltoValue.length = 0 := by rw [hnil, List.length_nil]
    refine ⟨d, if_pos hnil, rfl, ?_⟩
    rw [hempty hnil]
    omega
  · have hpos : 0 < info.leveltoValue.length := List.length_pos_iff.mpr hnil
    have hidx : d.getLowestStatus.toNat < info.leveltoValue.length := by omega
    rw [if_neg hnil, List.getElem?_eq_getElem hidx]
    dsimp only
    split
    · exact ⟨d, rfl, rfl, ‹_›⟩
    · exact ⟨_, rfl, rfl, rfl⟩

theorem statusApply_settles (hkind : info.kind ≠ .report) (htable : info.kind ≠ .dummy → d.InTable info)
    (hempty : info.kind ≠ .dummy → info.leveltoValue = [] → d.currentStatus = 0) :
    ∃ d', d.statusApply info = some d' ∧ d'.request = d.request ∧ d'.currentStatus = d.getLowestStatus := by
  rw [statusApply]
  cases hk : info.kind with
  | base => exact applyLevel_settles (htable (by simp [hk])) (hempty (by simp [hk]))
  | camera => exact applyLevel_settles (htable (by simp [hk])) (hempty (by simp [hk]))
  | cpuFreq => exact applyLevel_settles (htable (by simp [hk])) (hempty (by simp [hk]))
  | report => exact absurd hk hkind
  | dummy => exact ⟨_, rfl, rfl, rfl⟩

theorem Settled.of_request_eq {d d' : DeviceState} (hreq : d'.request = d.request)
    (hstat : d'.currentStatus = d.getLowestStatus) (htable : info.kind ≠ .dummy → d.InTable info) :
    d'.Settled info where
  currentStatus := by rw [hstat, getLowestStatus, getLowestStatus, hreq]
  inTable hkind := by
    intro name v hv
    rw [hreq] at hv
    exact htable hkind name v hv

theorem Settled.currentStatus_of_empty (h : d.Settled info)
    (hkind : info.kind ≠ .dummy) (hnil : info.leveltoValue = []) : d.currentStatus = 0 := by
  have hlow := d.getLowestStatus_nonneg
  have hlt := (h.inTable hkind).getLowestStatus_lt
  rw [hnil, List.length_nil] at hlt
  rw [h.currentStatus]
  omega

end DeviceState

section

def controlAll (name : String) (requests : List (Nat × Int)) (devices : Nat → DeviceState) : Nat → DeviceState :=
  requests.foldl (fun devices r => update devices r.1 ((devices r.1).deviceControl name r.2)) devices

def applyAll (info : Nat → DeviceInfo) (ids : List Nat) (devices : Nat → DeviceState) : Option (Nat → DeviceState) :=
  ids.foldlM (fun devices d => ((devices d).statusApply (info d)).map (update devices d)) devices

def requestLevels (info : Nat → DeviceInfo) (name : String) (requests : List (Nat × Int))
    (devices : Nat → DeviceState) : Option (Nat → DeviceState) :=
  applyAll info (requests.map Prod.fst) (controlAll name requests devices)

def actionOn : List (Nat × Int) → Nat → Option Int
  | [], _ => none
  | r :: requests, d => (actionOn requests d).or (if r.1 = d then some r.2 else none)

variable {requests : List (Nat × Int)} {d : Nat}

theorem mem_of_actionOn {v : Int} (h : actionOn requests d = some v) : (d, v) ∈ requests := by
  induction requests with
  | nil => cases h
  | cons r requests ih =>
    rw [actionOn] at h
    cases hrest : actionOn requests d with
    | some w =>
      rw [hrest, Option.some_or] at h
      cases h
      exact List.mem_cons_of_mem _ (ih hrest)
    | none =>
      rw [hrest, Option.none_or] at h
      split at h
      · rename_i hd
        cases h
        rw [← hd]
        exact List.mem_cons_self
      · cases h

theorem actionOn_eq_none_iff (requests : List (Nat × Int)) (d : Nat) :
    actionOn requests d = none ↔ d ∉ requests.map Prod.fst := by
  induction requests with
  | nil => simp [actionOn]
  | cons r requests ih =>
    rw [actionOn, Option.or_eq_none_iff, ih, List.map_cons, List.mem_cons, not_or, and_comm]
    apply and_congr_left'
    split
    · simp_all
    · simp_all [eq_comm]

theorem actionOn_append (front back : List (Nat × Int)) (d : Nat) :
    actionOn (front ++ back) d = (actionOn back d).or (actionOn front d) := by
  induction front with
  | nil => rw [List.nil_append, actionOn, Option.or_none]
  | cons r front ih => rw [List.cons_append, actionOn, ih, Option.or_assoc, actionOn]

structure Entered (name : String) (requests : List (Nat × Int)) (devices devices' : Nat → DeviceState) : Prop where
  own : ∀ d, (devices' d).request.lookup name = (actionOn requests d).or ((devices d).request.lookup name)
  other : ∀ d n, n ≠ name → (devices' d).request.lookup n = (devices d).request.lookup n
  currentStatus : ∀ d, (devices' d).currentStatus = (devices d).currentStatus
  frame : ∀ d, d ∉ requests.map Prod.fst → devices' d = devices d

theorem controlAll_entered (name : String) (requests : List (Nat × Int)) (devices : Nat → DeviceState) :
    Entered name requests devices (controlAll name requests devices) := by
  induction requests generalizing devices with
  | nil =>
    constructor
    · intro d
      rfl
    · intro d n hn
      rfl
    · intro d
      rfl
    · intro d hd
      rfl
  | cons r requests ih =>
    obtain ⟨target, action⟩ := r
    have hrest := ih (update devices target ((devices target).deviceControl name action))
    constructor
    · intro d
      refine (hrest.own d).trans ?_
      rw [actionOn, Option.or_assoc]
      congr 1
      by_cases hd : target = d
      · subst hd
        rw [update_self, if_pos rfl, Option.some_or]
        exact AList.lookup_insert _
      · rw [update_of_ne (Ne.symm hd), if_neg hd, Option.none_or]
    · intro d n hn
      refine (hrest.other d n hn).trans ?_
      by_cases hd : d = target
      · subst hd
        rw [update_self]
        exact AList.lookup_insert_ne hn
      · rw [update_of_ne hd]
    · intro d
      refine (hrest.currentStatus d).trans ?_
      by_cases hd : d = target
      · subst hd
        rw [update_self]
        rfl
      · rw [update_of_ne hd]
    · intro d hd
      rw [List.map_cons, List.mem_cons, not_or] at hd
      refine (hrest.frame d hd.2).trans ?_
      exact update_of_ne hd.1 _ _

structure Ready (info : DeviceInfo) (d : DeviceState) : Prop where
  inTable : info.kind ≠ .dummy → d.InTable info
  empty : info.kind ≠ .dummy → info.leveltoValue = [] → d.currentStatus = 0

variable {info : DeviceInfo}

theorem Ready.of_settled {d : DeviceState} (h : d.Settled info) : Ready info d where
  inTable := h.inTable
  empty := h.currentStatus_of_empty

structure Applied (info : Nat → DeviceInfo) (ids : List Nat) (devices devices' : Nat → DeviceState) : Prop where
  settled : ∀ d ∈ ids, (info d).kind ≠ .report → (devices' d).Settled (info d)
  frame : ∀ d, d ∉ ids → devices' d = devices d

theorem statusApply_ready {d : DeviceState} (h : info.kind ≠ .report → Ready info d) :
    ∃ d', d.statusApply info = some d' ∧ (info.kind ≠ .report → d'.Settled info) := by
  by_cases hkind : info.kind = .report
  · exact ⟨d.applyReport, by rw [DeviceState.statusApply, hkind], fun hne => absurd hkind hne⟩
  · obtain ⟨htable, hempty⟩ := h hkind
    obtain ⟨d', happly, hreq, hstat⟩ := DeviceState.statusApply_settles hkind htable hempty
    exact ⟨d', happly, fun _ => .of_request_eq hreq hstat htable⟩

variable {devices : Nat → DeviceState}

theorem applyAll_applied (info : Nat → DeviceInfo) (ids : List Nat)
    (hready : ∀ d ∈ ids, (info d).kind ≠ .report → Ready (info d) (devices d)) :
    ∃ devices', applyAll info ids devices = some devices' ∧ Applied info ids devices devices' := by
  induction ids generalizing devices with
  | nil => exact ⟨devices, rfl, (fun _ hd => nomatch hd), fun _ _ => rfl⟩
  | cons id ids ih =>
    obtain ⟨hhead, htail⟩ := List.forall_mem_cons.mp hready
    obtain ⟨device', happly, hdev⟩ := statusApply_ready hhead
    have hnext : ∀ d ∈ ids, (info d).kind ≠ .report → Ready (info d) (update devices id device' d) := by
      intro d hd hkind
      by_cases heq : d = id
      · subst heq
        rw [update_self]
        exact .of_settled (hdev hkind)
      · rw [update_of_ne heq]
        exact htail d hd hkind
    obtain ⟨devices', hrest, happlied⟩ := ih hnext
    refine ⟨devices', ?_, ?_, ?_⟩
    · rw [applyAll, List.foldlM_cons, happly]
      exact hrest
    · intro d hd hkind
      by_cases hmem : d ∈ ids
      · exact happlied.settled d hmem hkind
      · have heq : d = id := (List.mem_cons.mp hd).resolve_right hmem
        subst heq
        rw [happlied.frame d hmem, update_self]
        exact hdev hkind
    · intro d hd
      rw [List.mem_cons, not_or] at hd
      rw [happlied.frame d hd.2, update_of_ne hd.1]

structure Requested (info : Nat → DeviceInfo) (name : String) (requests : List (Nat × Int))
    (devices devices' : Nat → DeviceState) : Prop where
  own : ∀ d, (info d).kind ≠ .report →
    (devices' d).request.lookup name = (actionOn requests d).or ((devices d).request.lookup name)
  other : ∀ d, (info d).kind ≠ .report → ∀ n, n ≠ name → (devices' d).request.lookup n = (devices d).request.lookup n

theorem statusApply_request {d d' : DeviceState} (hkind : info.kind ≠ .report)
    (h : d.statusApply info = some d') : d'.request = d.request := by
  have hlvl (h : d.applyLevel info.leveltoValue = some d') : d'.request = d.request := by
    rw [DeviceState.applyLevel] at h
    split at h
    · cases h
      rfl
    · split at h
      · cases h
      · split at h
        · cases h
          rfl
        · cases h
          rfl
  rw [DeviceState.statusApply] at h
  cases hk : info.kind with
  | base => exact hlvl (by rwa [hk] at h)
  | camera => exact hlvl (by rwa [hk] at h)
  | cpuFreq => exact hlvl (by rwa [hk] at h)
  | report => exact absurd hk hkind
  | dummy =>
    rw [hk] at h
    cases h
    rfl

variable {info : Nat → DeviceInfo} {devices' : Nat → DeviceState}

theorem applyAll_request {ids : List Nat}
    (h : applyAll info ids devices = some devices') (hkind : (info d).kind ≠ .report) :
    (devices' d).request = (devices d).request := by
  induction ids generalizing devices with
  | nil =>
    cases h
    rfl
  | cons id ids ih =>
    rw [applyAll, List.foldlM_cons, Option.bind_eq_bind, Option.bind_eq_some_iff] at h
    obtain ⟨next, hnext, hrest⟩ := h
    obtain ⟨device', happly, rfl⟩ := Option.map_eq_some_iff.mp hnext
    refine (ih hrest).trans ?_
    by_cases hd : d = id
    · subst hd
      rw [update_self]
      exact statusApply_request hkind happly
    · rw [update_of_ne hd]

theorem requestLevels_requested {name : String} (h : requestLevels info name requests devices = some devices') :
    Requested info name requests devices devices' := by
  have hentered := controlAll_entered name requests devices
  constructor
  · intro d hkind
    rw [applyAll_request h hkind]
    exact hentered.own d
  · intro d hkind n hn
    rw [applyAll_request h hkind]
    exact hentered.other d n hn

def RequestsInTable (info : Nat → DeviceInfo) (requests : List (Nat × Int)) : Prop :=
  ∀ r ∈ requests, (info r.1).kind ≠ .report → (info r.1).kind ≠ .dummy → r.2 < max 1 (info r.1).leveltoValue.length

theorem Entered.inTable {name : String} (h : Entered name requests devices devices')
    (hreqs : RequestsInTable info requests) (hkind : (info d).kind ≠ .report)
    (hdummy : (info d).kind ≠ .dummy) (htable : (devices d).InTable (info d)) :
    (devices' d).InTable (info d) := by
  intro n v hv
  by_cases hn : n = name
  · subst hn
    rw [h.own] at hv
    cases haction : actionOn requests d with
    | some w =>
      rw [haction, Option.some_or] at hv
      cases hv
      exact hreqs _ (mem_of_actionOn haction) hkind hdummy
    | none =>
      rw [haction, Option.none_or] at hv
      exact htable n v hv
  · rw [h.other d n hn] at hv
    exact htable n v hv

theorem requestLevels_settled (name : String) (hsettled : ∀ d, (info d).kind ≠ .report → (devices d).Settled (info d))
    (hreqs : RequestsInTable info requests) :
    ∃ devices', requestLevels info name requests devices = some devices' ∧
      ∀ d, (info d).kind ≠ .report → (devices' d).Settled (info d) := by
  have hentered := controlAll_entered name requests devices
  have hready : ∀ d ∈ requests.map Prod.fst, (info d).kind ≠ .report →
      Ready (info d) (controlAll name requests devices d) := by
    intro d _ hkind
    constructor
    · intro hdummy
      exact hentered.inTable hreqs hkind hdummy ((hsettled d hkind).inTable hdummy)
    · intro hdummy hnil
      rw [hentered.currentStatus]
      exact (hsettled d hkind).currentStatus_of_empty hdummy hnil
  obtain ⟨devices', happly, happlied⟩ := applyAll_applied info _ hready
  refine ⟨devices', happly, fun d hkind => ?_⟩
  by_cases hmem : d ∈ requests.map Prod.fst
  · exact happlied.settled d hmem hkind
  · rw [happlied.frame d hmem, hentered.frame d hmem]
    exact hsettled d hkind

end

end ExynosHal.Thermal
