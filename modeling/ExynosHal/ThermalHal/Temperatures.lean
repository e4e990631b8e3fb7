import ExynosHal.Library.Words
import Mathlib.Tactic
import ExynosHal.Library.Run

/-! # The temperatures of the thermal HAL

`thermal_exynos.cpp`: the nodes opened at the start and the three functions that report from them. An `int` is given by
its bits, a float by the whole number it stands for.
-/

namespace ExynosHal.ThermalHal
open Library.Run
open List (length_map map_append mem_append mem_filter mem_map ofFn)
open Nat (log2)
open Function (update)

/-- The types that a zone may have. Of another one there are no names. -/
inductive TemperatureType where
  | cpu | gpu | npu
  deriving DecidableEq, Inhabited

/-- `thermal_zone<i>`: the word in `type`, and what `atoi` makes of `temp` and of `trip_point_1` to `trip_point_7`. -/
structure Zone where
  name : String
  temp : U32
  trip : Fin 7 → U32
  hyst : Fin 7 → U32

def typeOf (zoneName : String) : Option TemperatureType :=
  if zoneName = "BIG" ∨ zoneName = "MID" ∨ zoneName = "LITTLE" then some .cpu
  else if zoneName = "G3D" then some .gpu
  else if zoneName = "NPU" then some .npu
  else none

inductive Ifstream where
  | closed
  | opened (value : U32)
  | failed
  deriving DecidableEq

/-- A stream that is open already only gets its `failbit`. -/
def Ifstream.openFile (value : U32) : Ifstream → Ifstream
  | closed => opened value
  | _ => failed

def readValue : Ifstream → U32
  | .opened value => value
  | _ => 0

/-- The maps. `names` are the keys of `temperatureNodes`, `throttleNodes` and `hysteresisNodes`. -/
structure Hal where
  names : List String
  temperatureNodes : String → Ifstream
  thermalNames : TemperatureType → List String
  throttleNodes : String → List U32
  hysteresisNodes : String → List U32

def addZone (hal : Hal) (zone : Zone) : Hal :=
  match typeOf zone.name with
  | none => hal
  | some tempType =>
    { names := if zone.name ∈ hal.names then hal.names else hal.names ++ [zone.name]
      temperatureNodes := update hal.temperatureNodes zone.name
        ((hal.temperatureNodes zone.name).openFile zone.temp)
      thermalNames := update hal.thermalNames tempType (hal.thermalNames tempType ++ [zone.name])
      throttleNodes := update hal.throttleNodes zone.name (hal.throttleNodes zone.name ++ ofFn zone.trip)
      hysteresisNodes := update hal.hysteresisNodes zone.name
        (hal.hysteresisNodes zone.name ++ ofFn zone.hyst) }

def noNodes : Hal := ⟨[], fun _ => .closed, fun _ => [], fun _ => [], fun _ => []⟩

def initExynosThermalHal (zones : List Zone) : Hal := zones.foldl addZone noNodes

def readCurTemp (hal : Hal) (thermalName : String) : U32 := readValue (hal.temperatureNodes thermalName)

def readThrottleTemp (hal : Hal) (thermalName : String) (lv : Nat) : Option U32 :=
  (hal.throttleNodes thermalName)[lv]?

/-- The nearest number with 24 significant bits, the even one of two. -/
def toFloat (n : Nat) : Nat :=
  let unit := 2 ^ (log2 n - 23)
  if unit < 2 * (n % unit) ∨ unit = 2 * (n % unit) ∧ n / unit % 2 = 1 then (n / unit + 1) * unit else n / unit * unit

def toSignedFloat (z : Int) : Int := if z < 0 then -toFloat z.natAbs else toFloat z.natAbs

structure Temperature10 where
  type : TemperatureType
  name : String
  currentValue : Nat
  throttlingThreshold : Nat
  shutdownThreshold : Nat
  deriving Inhabited

structure Temperature20 where
  type : TemperatureType
  name : String
  value : Nat
  throttlingStatus : Nat
  deriving DecidableEq, Inhabited

structure TemperatureThreshold where
  type : TemperatureType
  name : String
  hotThrottlingThresholds : List Nat
  coldThrottlingThresholds : List Int
  deriving DecidableEq, Inhabited

inductive ThermalStatus where
  | success | failure

def currentValue (hal : Hal) (name : String) : Nat := toFloat ((readCurTemp hal name).toNat / 1000)

def temperature10 (hal : Hal) (entry : TemperatureType × String) : Option Temperature10 := do
  let throttling ← readThrottleTemp hal entry.2 0
  let shutdown ← readThrottleTemp hal entry.2 6
  some {
      type := entry.1, name := entry.2, currentValue := currentValue hal entry.2,
      throttlingThreshold := toFloat throttling.toNat, shutdownThreshold := toFloat shutdown.toNat }

def Hal.entries (hal : Hal) : List (TemperatureType × String) :=
  [TemperatureType.cpu, .gpu, .npu].flatMap fun tempType => (hal.thermalNames tempType).map (tempType, ·)

/-- `none` is an access outside a vector or an array, here as below. -/
def getAllTemperatures (hal : Hal) : Option (List Temperature10) := do
  let temperatures ← hal.entries.mapM (temperature10 hal)
  if temperatures.length ≤ hal.names.length then
    some (temperatures ++ List.replicate (hal.names.length - temperatures.length) default)
  else none

/-- The loop over the levels, downwards from `throttleNodes.size() - 1`. -/
def throttlingStatus (hal : Hal) (name : String) (temp : U32) : Nat → Option Nat
  | 0 => some 0
  | j + 1 => do
    let throttle ← readThrottleTemp hal name j
    if throttle ≤ temp then some j else throttlingStatus hal name temp j

def temperature20 (hal : Hal) (tType : TemperatureType) (name : String) : Option Temperature20 := do
  let status ← throttlingStatus hal name (readCurTemp hal name) hal.names.length
  some { type := tType, name, value := currentValue hal name, throttlingStatus := status }

def getTypeTemperatures (hal : Hal) (tType : TemperatureType) : Option (ThermalStatus × List Temperature20) :=
  if hal.thermalNames tType = [] then some (.failure, [])
  else ((hal.thermalNames tType).mapM (temperature20 hal tType)).map (.success, ·)

def coldThreshold (throttle hyst : U32) : Int := toSignedFloat (toFloat throttle.toNat - toFloat hyst.toNat)

/-- The arrays have seven elements. -/
def temperatureThreshold (hal : Hal) (tType : TemperatureType) (name : String) : Option TemperatureThreshold :=
  let throttle := hal.throttleNodes name
  let hyst := hal.hysteresisNodes name
  if throttle.length ≤ 7 ∧ throttle.length ≤ hyst.length then
    some {
        type := tType, name, hotThrottlingThresholds := throttle.map fun t => toFloat t.toNat,
        coldThrottlingThresholds := throttle.zipWith coldThreshold hyst }
  else none

def temperatureThresholds (hal : Hal) (tType : TemperatureType) : Option (ThermalStatus × List TemperatureThreshold) :=
  if hal.thermalNames tType = [] then some (.failure, [])
  else ((hal.thermalNames tType).mapM (temperatureThreshold hal tType)).map (.success, ·)

def recognised (zones : List Zone) : List Zone := zones.filter fun zone => (typeOf zone.name).isSome

def ofType (tType : TemperatureType) (zones : List Zone) : List Zone :=
  zones.filter fun zone => typeOf zone.name = some tType

/-- The highest level whose trip point is at most the temperature, 0 without one. -/
def Zone.severity (zone : Zone) : Nat :=
  Nat.findGreatest (fun j => ∃ h : j < 7, (zone.trip ⟨j, h⟩).toInt ≤ zone.temp.toInt) 6

/-- The three functions report on a zone, the `i`-th of its type, and agree. -/
structure Reported (hal : Hal) (tType : TemperatureType) (i : Nat) (zone : Zone) (reports : List Temperature10)
    (t : Temperature20) (limits : TemperatureThreshold) : Prop where
  all : getAllTemperatures hal = some reports
  temperature : ∃ temperatures, getTypeTemperatures hal tType = some (.success, temperatures) ∧ temperatures[i]? =
    some t
  thresholds : ∃ thresholds, temperatureThresholds hal tType = some (.success, thresholds) ∧ thresholds[i]? =
    some limits
  severity : t.throttlingStatus = zone.severity
  reached : ∀ j, 1 ≤ j → j < 7 → ∃ hot, limits.hotThrottlingThresholds[j]? = some hot ∧
    (j ≤ t.throttlingStatus ↔ hot ≤ t.value)
  current : ∃ entry ∈ reports, entry.type = tType ∧ entry.name = zone.name ∧ entry.currentValue = t.value ∧
    limits.hotThrottlingThresholds[0]? = some entry.throttlingThreshold ∧
    limits.hotThrottlingThresholds[6]? = some entry.shutdownThreshold

def Truthful (hal : Hal) (tType : TemperatureType) (i : Nat) (zone : Zone) : Prop :=
  ∃ reports t limits, Reported hal tType i zone reports t limits

/-- Where a level is reached, the loop goes up to it and its trip point, in millidegrees, is not above the temperature
in degrees. Of a negative temperature the numbers behave as those modulo 2^32. -/
def LevelAgrees (zoneCount : Nat) (temp trip : Int) (j : Nat) : Prop :=
  (0 ≤ temp → trip ≤ temp → j < zoneCount ∧ 0 ≤ trip ∧ trip ≤ temp / 1000) ∧
    (temp < 0 → temp < trip ∧ (trip < 0 ∨ zoneCount ≤ j ∧ (temp + 2 ^ 32) / 1000 < trip))

theorem toFloat_of_lt {n : Nat} (h : n < 2 ^ 24) : toFloat n = n := by
  have hunit : log2 n - 23 = 0 := by
    have hlog : log2 n < 24 := by
      rcases Nat.eq_zero_or_pos n with rfl | hpos
      · decide
      · exact (Nat.log2_lt hpos.ne').mpr h
    omega
  simp [toFloat, hunit, Nat.mod_one]

theorem toFloat_le_iff {n m : Nat} (h : m < 2 ^ 24) : toFloat n ≤ m ↔ n ≤ m := by
  rcases Nat.lt_or_ge n (2 ^ 24) with hsmall | hlarge
  · rw [toFloat_of_lt hsmall]
  · refine iff_of_false (Nat.not_le.mpr ?_) (by omega)
    have hlog : 24 ≤ log2 n := (Nat.le_log2 (by omega)).mpr hlarge
    -- A number with more than 24 bits keeps its highest bit.
    have hquot : 2 ^ 23 ≤ n / 2 ^ (log2 n - 23) := by
      rw [Nat.le_div_iff_mul_le (Nat.two_pow_pos _), ← Nat.pow_add, Nat.add_sub_cancel' (by omega)]
      exact Nat.log2_self_le (by omega)
    have hunit : 2 ^ 1 ≤ 2 ^ (log2 n - 23) := Nat.pow_le_pow_right (by decide) (by omega)
    have hround : n / 2 ^ (log2 n - 23) * 2 ^ (log2 n - 23) ≤ toFloat n := by
      unfold toFloat
      dsimp only
      split
      · exact Nat.mul_le_mul_right _ (Nat.le_succ _)
      · exact le_rfl
    calc m < 2 ^ 23 * 2 ^ 1 := h
      _ ≤ n / 2 ^ (log2 n - 23) * 2 ^ (log2 n - 23) := Nat.mul_le_mul hquot hunit
      _ ≤ toFloat n := hround

/-- What the nodes are after the zones of a list. -/
structure Describes (hal : Hal) (zones : List Zone) : Prop where
  thermalNames : ∀ tType, hal.thermalNames tType = (ofType tType zones).map Zone.name
  sublist : hal.names.Sublist (zones.map Zone.name)
  covers : ∀ zone ∈ zones, zone.name ∈ hal.names
  nodup : hal.names.Nodup
  fresh : ∀ name, name ∉ zones.map Zone.name →
    hal.temperatureNodes name = .closed ∧ hal.throttleNodes name = [] ∧ hal.hysteresisNodes name = []
  unique : (zones.map Zone.name).Nodup → ∀ zone ∈ zones, hal.temperatureNodes zone.name = .opened zone.temp ∧
    hal.throttleNodes zone.name = ofFn zone.trip ∧ hal.hysteresisNodes zone.name = ofFn zone.hyst

theorem describes_noNodes : Describes noNodes [] :=
  ⟨fun _ => rfl, .slnil, nofun, .nil, fun _ _ => ⟨rfl, rfl, rfl⟩, fun _ => nofun⟩

theorem Describes.addZone {hal : Hal} {zones : List Zone} {zone : Zone} (h : Describes hal zones)
    (hzone : (typeOf zone.name).isSome) : Describes (addZone hal zone) (zones ++ [zone]) := by
  obtain ⟨tempType, htype⟩ := Option.isSome_iff_exists.mp hzone
  simp only [ThermalHal.addZone, htype]
  refine ⟨fun tType => ?_, ?_, fun other hother => ?_, ?_, fun name hname => ?_, fun hnodup other hother => ?_⟩
  · show update hal.thermalNames tempType _ tType = _
    rw [ofType, List.filter_append, map_append, Function.update_apply]
    split
    · rename_i hsame
      subst hsame
      rw [h.thermalNames]
      simp [ofType, htype]
    · rename_i hother
      rw [h.thermalNames]
      simp [ofType, htype, Ne.symm hother]
  · rw [map_append]
    split
    · exact h.sublist.trans (List.sublist_append_left _ _)
    · exact h.sublist.append (List.Sublist.refl _)
  · rcases mem_append.mp hother with hold | hnew
    · split
      · exact h.covers other hold
      · exact List.mem_append_left _ (h.covers other hold)
    · rw [List.mem_singleton.mp hnew]
      split
      · assumption
      · exact List.mem_append_right _ (List.mem_singleton_self _)
  · split
    · exact h.nodup
    · rename_i hnew
      exact h.nodup.append (List.nodup_singleton _) (by simpa using hnew)
  · rw [map_append, mem_append, not_or] at hname
    have hne : name ≠ zone.name := by simpa using hname.2
    simp only [Function.update_of_ne hne]
    exact h.fresh name hname.1
  · rw [map_append] at hnodup
    obtain ⟨hold, -, hdisjoint⟩ := List.nodup_append'.mp hnodup
    have hnew : zone.name ∉ zones.map Zone.name := fun hmem => hdisjoint hmem (List.mem_singleton_self _)
    rcases mem_append.mp hother with hmem | hmem
    · have hne : other.name ≠ zone.name := fun hsame => hnew (hsame ▸ List.mem_map_of_mem hmem)
      simp only [Function.update_of_ne hne]
      exact h.unique hold other hmem
    · obtain ⟨hclosed, hthrottle, hhyst⟩ := h.fresh zone.name hnew
      rw [List.mem_singleton.mp hmem]
      simp only [Function.update_self, hclosed, hthrottle, hhyst, List.nil_append, Ifstream.openFile, and_self]

theorem describes_init (zones : List Zone) : Describes (initExynosThermalHal zones) (recognised zones) := by
  unfold initExynosThermalHal recognised
  induction zones using List.reverseRecOn with
  | nil => exact describes_noNodes
  | append_singleton zones zone ih =>
    rw [List.foldl_append, List.filter_append]
    cases htype : typeOf zone.name with
    | none => simpa [addZone, htype] using ih
    | some tempType =>
      have hzone : (typeOf zone.name).isSome := by rw [htype]; rfl
      simpa [htype] using ih.addZone hzone

variable {hal : Hal} {zones : List Zone}

theorem length_entries (h : Describes hal zones) (hzones : ∀ zone ∈ zones, (typeOf zone.name).isSome) :
    hal.entries.length = zones.length := by
  have hlen : hal.entries.length = (ofType .cpu zones).length + (ofType .gpu zones).length +
      (ofType .npu zones).length := by
    simp [Hal.entries, h.thermalNames, Nat.add_assoc]
  rw [hlen]
  clear h hlen
  induction zones with
  | nil => rfl
  | cons zone zones ih =>
    obtain ⟨hzone, hrest⟩ := List.forall_mem_cons.mp hzones
    have ih := ih hrest
    obtain ⟨tempType, htype⟩ := Option.isSome_iff_exists.mp hzone
    cases tempType <;> simp [ofType, htype] at ih ⊢ <;> omega

theorem length_names_le (h : Describes hal zones) (hzones : ∀ zone ∈ zones, (typeOf zone.name).isSome) :
    hal.names.length ≤ 5 := by
  have hsubset : hal.names ⊆ ["BIG", "MID", "LITTLE", "G3D", "NPU"] := by
    intro name hname
    obtain ⟨zone, hzone, rfl⟩ := mem_map.mp (h.sublist.subset hname)
    have htype := hzones zone hzone
    unfold typeOf at htype
    split at htype
    · rename_i hcpu
      rcases hcpu with hname | hname | hname <;> simp [hname]
    · split at htype
      · rename_i hgpu
        simp [hgpu]
      · split at htype
        · rename_i hnpu
          simp [hnpu]
        · cases htype
  exact (h.nodup.subperm hsubset).length_le

theorem length_names (h : Describes hal zones) (hnodup : (zones.map Zone.name).Nodup) :
    hal.names.length = zones.length := by
  have hsubset : zones.map Zone.name ⊆ hal.names := by
    intro name hname
    obtain ⟨zone, hzone, rfl⟩ := mem_map.mp hname
    exact h.covers zone hzone
  have hle := (hnodup.subperm hsubset).length_le
  have hge := h.sublist.length_le
  rw [length_map] at hle hge
  omega

section
variable {name : String} (temp : U32) {trip : Fin 7 → U32}

theorem throttlingStatus_eq (hread : ∀ j, readThrottleTemp hal name j = (ofFn trip)[j]?) {n : Nat} (hn : n ≤ 7) :
    ∃ status < 7, throttlingStatus hal name temp n = some status ∧
      ∀ j, 1 ≤ j → (j ≤ status ↔ ∃ k, ∃ h : k < 7, j ≤ k ∧ k < n ∧ trip ⟨k, h⟩ ≤ temp) := by
  induction n with
  | zero => exact ⟨0, by decide, rfl, fun j hj => ⟨fun h => by omega, fun ⟨k, _, _, hk, _⟩ => by omega⟩⟩
  | succ n ih =>
    obtain ⟨status, hlt, hstat, hlvls⟩ := ih (by omega)
    have hget : readThrottleTemp hal name n = some (trip ⟨n, by omega⟩) := by
      rw [hread, List.getElem?_ofFn, dif_pos (by omega : n < 7)]
    rw [throttlingStatus, hget, Option.bind_eq_bind, Option.bind_some]
    split
    · rename_i hreached
      refine ⟨n, by omega, rfl, fun j hj => ⟨fun h => ⟨n, by omega, h, by omega, hreached⟩, ?_⟩⟩
      rintro ⟨k, _, hjk, hk, _⟩
      omega
    · rename_i hunreached
      refine ⟨status, hlt, hstat, fun j hj => (hlvls j hj).trans ⟨?_, ?_⟩⟩
      · rintro ⟨k, h, hjk, hk, hreached⟩
        exact ⟨k, h, hjk, by omega, hreached⟩
      · rintro ⟨k, h, hjk, hk, hreached⟩
        have hne : k ≠ n := by
          rintro rfl
          exact hunreached hreached
        exact ⟨k, h, hjk, by omega, hreached⟩

end

section
variable {zone : Zone} (hmono : ∀ j k : Fin 7, j ≤ k → (zone.trip j).toInt ≤ (zone.trip k).toInt)

theorem Zone.severity_lt (zone : Zone) : zone.severity < 7 := Nat.lt_succ_of_le (Nat.findGreatest_le 6)

include hmono in
theorem Zone.le_severity_iff {j : Nat} (hj : 1 ≤ j) (h : j < 7) :
    j ≤ zone.severity ↔ (zone.trip ⟨j, h⟩).toInt ≤ zone.temp.toInt := by
  constructor
  · intro hle
    obtain ⟨hlt, hreached⟩ := Nat.findGreatest_of_ne_zero (m := zone.severity) rfl (by omega)
    exact (hmono ⟨j, h⟩ ⟨zone.severity, hlt⟩ hle).trans hreached
  · exact fun hreached => Nat.le_findGreatest (by omega) ⟨h, hreached⟩

theorem levelAgrees_iff (n j : Nat) (temp trip : U32) : LevelAgrees n temp.toInt trip.toInt j ↔
      (trip.toInt ≤ temp.toInt → j < n ∧ trip.toNat ≤ temp.toNat / 1000) ∧
        (¬trip.toInt ≤ temp.toInt → ¬trip.toNat ≤ temp.toNat / 1000 ∧ (j < n → ¬trip ≤ temp)) := by
  have htemp := BitVec.toInt_eq_toNat_cond temp
  have htrip := BitVec.toInt_eq_toNat_cond trip
  have htempLt := temp.isLt
  have htripLt := trip.isLt
  rw [BitVec.le_def, LevelAgrees]
  split at htemp <;> split at htrip <;> omega

include hmono in
theorem levels_iff {status n : Nat} (hlt : status < 7)
    (hstat : ∀ j, 1 ≤ j → (j ≤ status ↔ ∃ k, ∃ h : k < 7, j ≤ k ∧ k < n ∧ zone.trip ⟨k, h⟩ ≤ zone.temp)) :
    (status = zone.severity ∧ ∀ j, ∀ h : j < 7, 1 ≤ j →
        (j ≤ status ↔ (zone.trip ⟨j, h⟩).toNat ≤ zone.temp.toNat / 1000)) ↔
      ∀ j, ∀ h : j < 7, 1 ≤ j → LevelAgrees n zone.temp.toInt (zone.trip ⟨j, h⟩).toInt j := by
  constructor
  · rintro ⟨rfl, hshown⟩ j h hj
    rw [levelAgrees_iff, ← zone.le_severity_iff hmono hj h, hshown j h hj]
    refine ⟨fun hreached => ⟨?_, hreached⟩, fun hunreached => ⟨hunreached, fun hjn htrip => hunreached ?_⟩⟩
    · obtain ⟨k, _, hjk, hk, _⟩ := (hstat j hj).mp ((hshown j h hj).mpr hreached)
      omega
    · exact (hshown j h hj).mp ((hstat j hj).mpr ⟨j, h, le_rfl, hjn, htrip⟩)
  · intro hlvls
    have hreached : ∀ j, ∀ h : j < 7, 1 ≤ j → (j ≤ status ↔ (zone.trip ⟨j, h⟩).toInt ≤ zone.temp.toInt) := by
      intro j h hj
      rw [hstat j hj]
      constructor
      · rintro ⟨k, hk7, hjk, hk, htrip⟩
        have hlvl := (levelAgrees_iff _ _ _ _).mp (hlvls k hk7 (hj.trans hjk))
        have hktrip : (zone.trip ⟨k, hk7⟩).toInt ≤ zone.temp.toInt := not_not.mp fun hnot => (hlvl.2 hnot).2 hk htrip
        exact (hmono ⟨j, h⟩ ⟨k, hk7⟩ hjk).trans hktrip
      · intro hle
        obtain ⟨hjn, hshown⟩ := ((levelAgrees_iff _ _ _ _).mp (hlvls j h hj)).1 hle
        exact ⟨j, h, le_rfl, hjn, BitVec.le_def.mpr (hshown.trans (Nat.div_le_self _ _))⟩
    have hsame : ∀ j, 1 ≤ j → j < 7 → (j ≤ status ↔ j ≤ zone.severity) := fun j hj h =>
      (hreached j h hj).trans (zone.le_severity_iff hmono hj h).symm
    refine ⟨?_, fun j h hj => ?_⟩
    · have hsev := zone.severity_lt
      have hup := hsame status
      have hdown := hsame zone.severity
      omega
    · rw [hreached j h hj]
      have hlvl := (levelAgrees_iff _ _ _ _).mp (hlvls j h hj)
      exact ⟨fun hle => (hlvl.1 hle).2, fun hshown => not_not.mp fun hnot => (hlvl.2 hnot).1 hshown⟩

end

section
variable {zone : Zone} (tType : TemperatureType) (h : Describes hal zones) (hnodup : (zones.map Zone.name).Nodup)
  (hzone : zone ∈ zones)
include h hnodup hzone

theorem readCurTemp_eq : readCurTemp hal zone.name = zone.temp := by
  rw [readCurTemp, (h.unique hnodup zone hzone).1, readValue]

theorem readThrottleTemp_eq (j : Nat) : readThrottleTemp hal zone.name j = (ofFn zone.trip)[j]? := by
  rw [readThrottleTemp, (h.unique hnodup zone hzone).2.1]

theorem temperature10_eq : temperature10 hal (tType, zone.name) =
    some ⟨tType, zone.name, toFloat (zone.temp.toNat / 1000), toFloat (zone.trip 0).toNat,
    toFloat (zone.trip 6).toNat⟩ := by
  rw [temperature10, currentValue, readCurTemp_eq h hnodup hzone, readThrottleTemp_eq h hnodup hzone,
    readThrottleTemp_eq h hnodup hzone]
  rfl

theorem temperatureThreshold_eq : temperatureThreshold hal tType zone.name =
    some ⟨tType, zone.name, (ofFn zone.trip).map fun t => toFloat t.toNat,
      (ofFn zone.trip).zipWith coldThreshold (ofFn zone.hyst)⟩ := by
  obtain ⟨-, hthrottle, hhyst⟩ := h.unique hnodup zone hzone
  simp [temperatureThreshold, hthrottle, hhyst]

theorem temperature20_eq (hzones : ∀ zone ∈ zones, (typeOf zone.name).isSome) :
    ∃ status < 7, temperature20 hal tType zone.name = some ⟨tType, zone.name, toFloat (zone.temp.toNat / 1000),
    status⟩ ∧
      ∀ j, 1 ≤ j → (j ≤ status ↔ ∃ k, ∃ h : k < 7, j ≤ k ∧ k < zones.length ∧ zone.trip ⟨k, h⟩ ≤ zone.temp) := by
  have hfive := length_names_le h hzones
  have hread := readThrottleTemp_eq h hnodup hzone
  obtain ⟨status, hlt, hstat, hlvls⟩ := throttlingStatus_eq zone.temp hread (hfive.trans (by decide : 5 ≤ 7))
  refine ⟨status, hlt, ?_, length_names h hnodup ▸ hlvls⟩
  rw [temperature20, readCurTemp_eq h hnodup hzone, hstat, currentValue, readCurTemp_eq h hnodup hzone]
  rfl

end

theorem ofType_recognised (tType : TemperatureType) (zones : List Zone) :
    ofType tType (recognised zones) = ofType tType zones := by
  rw [ofType, recognised, List.filter_filter]
  refine List.filter_congr fun zone _ => ?_
  cases typeOf zone.name <;> simp

theorem isSome_of_mem_recognised {zone : Zone} (h : zone ∈ recognised zones) : (typeOf zone.name).isSome :=
  (mem_filter.mp h).2

theorem nodup_of_getAllTemperatures (h : Describes hal zones) (hzones : ∀ zone ∈ zones, (typeOf zone.name).isSome)
    {reports : List Temperature10} (hall : getAllTemperatures hal = some reports) : (zones.map Zone.name).Nodup := by
  obtain ⟨temperatures, htemperatures, hall⟩ := unbind hall
  split at hall
  · rename_i hfits
    rw [(getElem?_of_mapM htemperatures).1, length_entries h hzones] at hfits
    rw [← h.sublist.eq_of_length_le (by rwa [length_map])]
    exact h.nodup
  · cases hall

theorem mem_of_mem_entries (h : Describes hal zones) {entry : TemperatureType × String} (hentry : entry ∈ hal.entries) :
    ∃ zone ∈ ofType entry.1 zones, zone.name = entry.2 := by
  obtain ⟨tempType, -, hentry⟩ := List.mem_flatMap.mp hentry
  obtain ⟨name, hname, rfl⟩ := mem_map.mp hentry
  rw [h.thermalNames] at hname
  exact mem_map.mp hname

theorem getAllTemperatures_eq (h : Describes hal zones) (hzones : ∀ zone ∈ zones, (typeOf zone.name).isSome)
    (hnodup : (zones.map Zone.name).Nodup) :
    getAllTemperatures hal = some (hal.entries.map fun entry => (temperature10 hal entry).getD default) := by
  have hmap : hal.entries.mapM (temperature10 hal) =
      some (hal.entries.map fun entry => (temperature10 hal entry).getD default) := by
    refine mapM_eq_some_map fun entry hentry => ?_
    obtain ⟨zone, hzone, hname⟩ := mem_of_mem_entries h hentry
    rw [← Prod.mk.eta (p := entry), ← hname, temperature10_eq _ h hnodup (mem_filter.mp hzone).1]
    rfl
  have hlen : (hal.entries.map fun entry => (temperature10 hal entry).getD default).length = hal.names.length := by
    rw [length_map, length_entries h hzones, length_names h hnodup]
  rw [getAllTemperatures, hmap, Option.bind_eq_bind, Option.bind_some, if_pos hlen.le, hlen, Nat.sub_self,
    List.replicate_zero, List.append_nil]

theorem reports_iff {α : Type} [Inhabited α] {f : String → Option α} {names : List String} {i : Nat} {name : String}
    (report : α) (hname : names[i]? = some name) (hf : ∀ name ∈ names, (f name).isSome) :
    (∃ reports, (if names = [] then some (.failure, []) else (names.mapM f).map (ThermalStatus.success, ·)) =
        some (.success, reports) ∧ reports[i]? = some report) ↔ f name = some report := by
  have hne : names ≠ [] := by
    rintro rfl
    cases hname
  rw [if_neg hne]
  constructor
  · rintro ⟨reports, hreports, hreport⟩
    obtain ⟨found, hfound, hsame⟩ := Option.map_eq_some_iff.mp hreports
    cases hsame
    obtain ⟨other, hother, hget⟩ := (getElem?_of_mapM hfound).2 i report hreport
    cases hname.symm.trans hother
    exact hget
  · intro hreport
    have hmap : names.mapM f = some (names.map fun name => (f name).getD default) := by
      refine mapM_eq_some_map fun name hname => ?_
      obtain ⟨y, hy⟩ := Option.isSome_iff_exists.mp (hf name hname)
      rw [hy, Option.getD_some]
    refine ⟨_, congrArg (Option.map _) hmap, ?_⟩
    rw [List.getElem?_map, hname, Option.map_some, hreport, Option.getD_some]

/-- A report is truthful exactly if the names differ and the loop over the levels ends at the level reached. -/
theorem truthful_iff {zone : Zone} {tType : TemperatureType} {i : Nat} (hzone : (ofType tType zones)[i]? = some zone)
    (hmono : ∀ j k : Fin 7, j ≤ k → (zone.trip j).toInt ≤ (zone.trip k).toInt) :
    Truthful (initExynosThermalHal zones) tType i zone ↔
      ((recognised zones).map Zone.name).Nodup ∧ ∀ j, ∀ h : j < 7, 1 ≤ j →
        LevelAgrees (recognised zones).length zone.temp.toInt (zone.trip ⟨j, h⟩).toInt j := by
  have hdescribes := describes_init zones
  have hzones : ∀ zone ∈ recognised zones, (typeOf zone.name).isSome := fun _ => isSome_of_mem_recognised
  rw [← ofType_recognised] at hzone
  generalize recognised zones = known at hdescribes hzones hzone ⊢
  generalize initExynosThermalHal zones = hal at hdescribes ⊢
  by_cases hnodup : (known.map Zone.name).Nodup
  swap
  · refine iff_of_false ?_ fun h => hnodup h.1
    rintro ⟨reports, t, limits, hrep⟩
    exact hnodup (nodup_of_getAllTemperatures hdescribes hzones hrep.all)
  have hmem : zone ∈ known := (mem_filter.mp (List.mem_of_getElem? hzone)).1
  have hname : (hal.thermalNames tType)[i]? = some zone.name := by
    rw [hdescribes.thermalNames, List.getElem?_map, hzone, Option.map_some]
  have hzoneOf : ∀ name ∈ hal.thermalNames tType, ∃ zone ∈ known, zone.name = name := by
    intro name hname
    rw [hdescribes.thermalNames] at hname
    obtain ⟨zone, hzone, rfl⟩ := mem_map.mp hname
    exact ⟨zone, (mem_filter.mp hzone).1, rfl⟩
  have htemperature (t : Temperature20) := reports_iff (f := temperature20 hal tType) t hname fun name hname => by
    obtain ⟨zone, hzone, rfl⟩ := hzoneOf name hname
    obtain ⟨status, -, heq, -⟩ := temperature20_eq tType hdescribes hnodup hzone hzones
    rw [heq]
    rfl
  have hthreshold (limits : TemperatureThreshold) := reports_iff (f := temperatureThreshold hal tType) limits hname
    fun name hname => by
      obtain ⟨zone, hzone, rfl⟩ := hzoneOf name hname
      rw [temperatureThreshold_eq _ hdescribes hnodup hzone]
      rfl
  obtain ⟨status, hlt, hstat, hlvls⟩ := temperature20_eq tType hdescribes hnodup hmem hzones
  have hlimits := temperatureThreshold_eq tType hdescribes hnodup hmem
  have hdegrees : zone.temp.toNat / 1000 < 2 ^ 24 := by
    have hbits := zone.temp.isLt
    omega
  rw [and_iff_right hnodup, ← levels_iff hmono hlt hlvls]
  constructor
  · rintro ⟨reports, t, limits, hrep⟩
    cases hstat.symm.trans ((htemperature t).mp hrep.temperature)
    cases hlimits.symm.trans ((hthreshold limits).mp hrep.thresholds)
    refine ⟨hrep.severity, fun j h hj => ?_⟩
    obtain ⟨hot, hhot, hreached⟩ := hrep.reached j hj h
    rw [List.getElem?_map, List.getElem?_ofFn, dif_pos h, Option.map_some, Option.some.injEq] at hhot
    rw [← hhot, toFloat_of_lt hdegrees, toFloat_le_iff hdegrees] at hreached
    exact hreached
  · rintro ⟨hseverity, hshown⟩
    refine ⟨_, _, _, getAllTemperatures_eq hdescribes hzones hnodup, (htemperature _).mpr hstat,
      (hthreshold _).mpr hlimits, hseverity,
      fun j hj h => ⟨toFloat (zone.trip ⟨j, h⟩).toNat, ?_, ?_⟩, _, List.mem_map_of_mem (a := (tType, zone.name)) ?_, ?_⟩
    · rw [List.getElem?_map, List.getElem?_ofFn, dif_pos h, Option.map_some]
    · rw [toFloat_of_lt hdegrees, toFloat_le_iff hdegrees]
      exact hshown j h hj
    · refine List.mem_flatMap.mpr ⟨tType, ?_, List.mem_map_of_mem (List.mem_of_getElem? hname)⟩
      cases tType <;> decide
    · rw [temperature10_eq _ hdescribes hnodup hmem]
      exact ⟨rfl, rfl, rfl, rfl, rfl⟩

def bigTrip : Fin 7 → U32 := ![20000, 76000, 81000, 86000, 91000, 96000, 115000]

def bigZone (temp : U32) : Zone where
  name := "BIG"
  temp := temp
  trip := bigTrip
  hyst := fun _ => 2000

theorem bigTrip_mono : ∀ j k : Fin 7, j ≤ k → (bigTrip j).toInt ≤ (bigTrip k).toInt := by decide

def littleZone : Zone := { bigZone 25000 with name := "LITTLE", trip := ![10, 20, 76000, 81000, 86000, 91000, 96000] }

theorem truthful_reached : Truthful (initExynosThermalHal [bigZone 25000, littleZone]) .cpu 1 littleZone := by
  refine (truthful_iff rfl (by decide)).mpr ⟨by decide, fun j h hj => ⟨fun _ htrip => ?_, fun hneg => ?_⟩⟩
  · revert j
    decide
  · exact absurd hneg (by decide)

theorem hot_zone_not_reported :
    ¬∀ (zones : List Zone) (zone : Zone) (tType : TemperatureType) (i : Nat), (ofType tType zones)[i]? = some zone →
      (∀ j k : Fin 7, j ≤ k → (zone.trip j).toInt ≤ (zone.trip k).toInt) →
      Truthful (initExynosThermalHal zones) tType i zone := by
  intro h
  obtain ⟨reports, t, limits, hrep⟩ := h [bigZone 90000] (bigZone 90000) .cpu 0 rfl bigTrip_mono
  obtain ⟨temperatures, htemperatures, ht⟩ := hrep.temperature
  have hseverity := hrep.severity
  cases htemperatures
  cases ht
  revert hseverity
  decide

end ExynosHal.ThermalHal
