import ExynosHal.Thermal.Device
import ExynosHal.Thermal.Parser.Input

/-! # `ThermalMain::envParse`

The env file names the sensors, the devices and the conf file. Threads are left out.
-/

namespace ExynosHal.Thermal.Parser
open Library

/-- The arguments of the constructors of `Real` and `Virtual`. -/
inductive SensorSpec where
  | real (name : String) (samplingTime : Int) (nodePath : String)
  | virtual (name : String) (samplingTime setPoint setPointClr math : Int) (sensors : List (Option Nat))
    (offsets weights : List Int)

def SensorSpec.isReal : SensorSpec → Bool
  | .real .. => true
  | .virtual .. => false

structure DeviceSpec where
  kind : DeviceKind
  name : String
  nodePath : String
  levelType : String
  leveltoValue : List String

/-- `SensorMap` gives `NULL` for a name it does not have, and so does `DeviceMap[]`; `DeviceMap` is
also searched with `find`, which tells a name it has with `NULL` from one it does not have.
`virtualSensors` are the virtual sensors inserted into each real one. -/
structure ThermalMain where
  sensors : List SensorSpec := []
  virtualSensors : List (Nat × Nat) := []
  sensorMap : String → Option Nat := fun _ => none
  devices : List DeviceSpec := []
  deviceMap : String → Option (Option Nat) := fun _ => none
  dynamicConfFile : String := "exynos-thermal_default.conf"

structure RealBody where
  nodePath : String := ""
  samplingTime : Int := 1000

structure VirtualBody where
  samplingTime : Int := 1000
  setPoint : Int := 0
  setPointClr : Int := 0
  math : Int := 0
  sensors : List (Option Nat) := []
  offsets : List Int := []
  weights : List Int := []
  sensor : Option Nat := none

structure DeviceBody where
  deviceType : String
  nodePath : String := ""
  levelTable : List String := []
  levelType : String := "integer"

def startsQuoted (value : String) : Bool := value.toList.head? = some '\x22'

def endsQuoted (value : String) : Bool := value.toList.getLast? = some '\x22'

def quotedRound : String × Strings → Fueled Stop ((String × Strings) ⊕ (String × Strings))
  | (tempVal, s) =>
    if endsQuoted s.value then pure (.inr (tempVal, s))
    else
      let s := s.readValue
      pure (.inl (tempVal ++ " " ++ s.value, s))

/-- `while (value[value.size() - 1] != '\"')`, which appends the words up to a closing quote. -/
def readQuoted : String × Strings → Fueled Stop (String × Strings) := .loop quotedRound

/-- `value.replace(0, 1, "")` and `value.replace(value.size() - 1, 1, "")`, which throws if no
character is left for it. -/
def unquote (value : String) : Except Stop String :=
  match value.toList.tail with
  | [] => .error .outOfRange
  | value => .ok (String.ofList value.dropLast)

namespace DeviceBody

def addLevel (body : DeviceBody) (value levelType : String) : DeviceBody :=
  { body with levelTable := body.levelTable ++ [value], levelType := levelType }

/-- A value that is not quoted may change the type to `hex` or `bin`. -/
def addPlain (body : DeviceBody) (value : String) : DeviceBody := body.addLevel value
    (if ['0', 'x'] <:+: value.toList then "hex" else if ['0', 'b'] <:+: value.toList then "bin" else body.levelType)

end DeviceBody

def levelValue (body : DeviceBody) (s : Strings) : Fueled Stop (DeviceBody × Strings) :=
  if startsQuoted s.value then do
    let (tempVal, s) ← readQuoted (s.value, s)
    let value ← .done (unquote tempVal)
    return (body.addLevel value "string", { s with value := value })
  else pure (body.addPlain s.value, s)

def levelRound : DeviceBody × Strings → Fueled Stop ((DeviceBody × Strings) ⊕ (DeviceBody × Strings))
  | (body, s) =>
    match s.extractValue with
    | none => pure (.inr (body, s))
    | some s => do
      let next ← levelValue body s
      return .inl next

def readLevelTable : DeviceBody × Strings → Fueled Stop (DeviceBody × Strings) := .loop levelRound

namespace RealBody

def property (body : RealBody) (s : Strings) : RealBody × Strings :=
  if s.prop = "node_path" then
    let s := s.readValue
    ({ body with nodePath := s.value }, s)
  else if s.prop = "sampling" then
    let s := s.readValue
    ({ body with samplingTime := IntType.u32.convert (atoi s.value) }, s)
  else (body, s)

def register (tm : ThermalMain) (name : String) (body : RealBody) : ThermalMain := { tm with
    sensors := tm.sensors ++ [.real name body.samplingTime body.nodePath]
    sensorMap := Function.update tm.sensorMap name (some tm.sensors.length) }

end RealBody

namespace VirtualBody

def property (tm : ThermalMain) (body : VirtualBody) (s : Strings) : VirtualBody × Strings :=
  if s.prop = "sampling" then
    let s := s.readValue
    ({ body with samplingTime := IntType.u32.convert (atoi s.value) }, s)
  else if s.prop = "trip_sensor" then
    let s := s.readValue
    ({ body with sensor := tm.sensorMap s.value }, s)
  else if s.prop = "set_point" then
    let s := s.readValue
    ({ body with setPoint := atoi s.value }, s)
  else if s.prop = "set_point_clr" then
    let s := s.readValue
    ({ body with setPointClr := atoi s.value }, s)
  else if s.prop = "sensors" then
    let (values, s) := s.readValues
    ({ body with sensors := body.sensors ++ values.map tm.sensorMap }, s)
  else if s.prop = "weights" then
    let (values, s) := s.readValues
    ({ body with weights := body.weights ++ values.map atoi }, s)
  else if s.prop = "offsets" then
    let (values, s) := s.readValues
    ({ body with offsets := body.offsets ++ values.map atoi }, s)
  else if s.prop = "math" then
    let s := s.readValue
    ({ body with math := atoi s.value }, s)
  else (body, s)

/-- `insertVirtualSensor` is called on the trip sensor as if it were a `Real`. -/
def register (tm : ThermalMain) (name : String) (body : VirtualBody) : Except Stop ThermalMain :=
  let virt := tm.sensors.length
  let tm' := { tm with
      sensors := tm.sensors ++ [.virtual name body.samplingTime body.setPoint body.setPointClr body.math body.sensors
        body.offsets body.weights]
      sensorMap := Function.update tm.sensorMap name (some virt) }
  match body.sensor with
  | none => .ok tm'
  | some sensor =>
    if (tm.sensors[sensor]?).any SensorSpec.isReal then
      .ok { tm' with virtualSensors := tm.virtualSensors ++ [(sensor, virt)] }
    else .error .undefined

end VirtualBody

def confFileProperty (tm : ThermalMain) (s : Strings) : ThermalMain × Strings :=
  if s.prop = "file_name" then
    let s := s.readValue
    ({ tm with dynamicConfFile := s.value }, s)
  else (tm, s)

namespace DeviceBody

def property (body : DeviceBody) (s : Strings) : Fueled Stop (DeviceBody × Strings) :=
  if s.prop = "node_path" then
    let s := s.readValue
    pure ({ body with nodePath := s.value }, s)
  else if s.prop = "level_table" then readLevelTable (body, s)
  else pure (body, s)

def kind (deviceType : String) : Option DeviceKind :=
  if deviceType = "charger" then some .base
  else if deviceType = "cpufreq" then some .cpuFreq
  else if deviceType = "gpufreq" then some .base
  else if deviceType = "cpuhotplug" then some .base
  else if deviceType = "camera" then some .camera
  else if deviceType = "backlight" then some .base
  else if deviceType = "report" then some .report
  else none

def register (tm : ThermalMain) (name : String) (body : DeviceBody) : ThermalMain :=
  match kind body.deviceType with
  | none => tm
  | some kind =>
    { tm with
      devices := tm.devices ++ [{
        kind := kind
        name := name
        nodePath := body.nodePath
        levelType := body.levelType
        leveltoValue := body.levelTable }]
      deviceMap := Function.update tm.deviceMap name (some (some tm.devices.length)) }

end DeviceBody

/-- The local variables of the branches on the type of an item. -/
inductive EnvBody where
  | real (body : RealBody)
  | virtual (body : VirtualBody)
  | confFile
  | device (body : DeviceBody)

namespace EnvBody

def ofType (type : String) : EnvBody :=
  if type = "real" then .real {}
  else if type = "virtual" then .virtual {}
  else if type = "conf_file" then .confFile
  else .device { deviceType := type }

def property : ThermalMain × EnvBody → Strings → Fueled Stop ((ThermalMain × EnvBody) × Strings)
  | (tm, .real body), s =>
    let (body, s) := body.property s
    pure ((tm, .real body), s)
  | (tm, .virtual body), s =>
    let (body, s) := body.property tm s
    pure ((tm, .virtual body), s)
  | (tm, .confFile), s =>
    let (tm, s) := confFileProperty tm s
    pure ((tm, .confFile), s)
  | (tm, .device body), s => do
    let (body, s) ← body.property s
    return ((tm, .device body), s)

def register (tm : ThermalMain) (name : String) : EnvBody → Except Stop ThermalMain
  | .real body => .ok (body.register tm name)
  | .virtual body => body.register tm name
  | .confFile => .ok tm
  | .device body => .ok (body.register tm name)

end EnvBody

/-- An item from its first property on. Only a virtual sensor reads a line before its loop; in the
other loops the property is `type` the first time round. -/
def envBody (tm : ThermalMain) (v : Vars) : Fueled Stop (ThermalMain × Vars) := do
  let body := EnvBody.ofType v.value
  let v := if v.value = "virtual" then v.getString.2.readProp else v
  let ((tm, body), v) ← properties (fun _ => false) EnvBody.property ((tm, body), v)
  let tm ← .done (body.register tm v.name)
  return (tm, v)

def envItem (tm : ThermalMain) (v : Vars) : Fueled Stop ((ThermalMain × Vars) ⊕ ThermalMain) :=
  if v.unbracketed then pure (.inr tm)
  else do
    let s ← .done v.eraseBrackets
    let v := ({ s with file := v.file } : Vars).getString.2.readProp
    if v.prop ≠ "type" then return .inr tm
    let next ← envBody tm v.readValue
    return .inl next

def envRound : ThermalMain × Vars → Fueled Stop ((ThermalMain × Vars) ⊕ ThermalMain)
  | (tm, v) =>
    if v.file.eof then pure (.inr tm)
    else
      let (eof, v) := v.getString
      if eof then pure (.inl (tm, v)) else envItem tm v.readName

def envParse (tm : ThermalMain) (envFile : File) : Fueled Stop ThermalMain := .loop envRound (tm, { file := envFile })

end ExynosHal.Thermal.Parser
