import ExynosHal.Thermal.Parser.EnvParse

/-! # `ThermalMain::confParse`

The conf file lists the items in scenario blocks.
-/

namespace ExynosHal.Thermal.Parser
open Library

structure MonitorBody where
  samplingTime : Int := 1000
  thresholds : List Int := []
  thresholdsClr : List Int := []
  sensor : Option Nat := none
  device : List (List (Option Nat)) := []
  actionInfo : List (List Int) := []
  isNegative : Bool := false

structure SSBody where
  samplingTime : Int := 1000
  setPoint : Int := 0
  setPointClr : Int := 0
  devicePerfFloor : Int := 2147483647
  timeTick : Int := 0
  startLevel : Int := 0
  sensor : Option Nat := none
  device : Option Nat := none
  isNegative : Bool := false

/-- The local variables of the branches on the algorithm of an item, and the arguments of its
constructor. -/
inductive ConfBody where
  | monitor (body : MonitorBody)
  | ss (body : SSBody)

structure Registered where
  name : String
  scenName : String
  body : ConfBody

structure Conf where
  items : List Registered := []
  scenarios : List String := []

/-- The position of the first character from `start` on that is in `delimiters` or is not. -/
def findFirst (member : Bool) (str delimiters : List Char) (start : Option Nat) : Option Nat :=
  start.bind fun start => ((str.drop start).findIdx? fun c => delimiters.contains c == member).map (start + ·)

def substr (str : List Char) (lastPos : Nat) : Option Nat → List Char
  | none => str.drop lastPos
  | some pos => (str.drop lastPos).take (pos - lastPos)

def tokenRound (str delimiters : List Char) :
    List String × Option Nat × Option Nat → Fueled Stop ((List String × Option Nat × Option Nat) ⊕ List String)
  | (tokens, none, none) => pure (.inr tokens)
  | (_, none, some _) => .fail .outOfRange
  | (tokens, some lastPos, pos) =>
    let tokens := tokens ++ [String.ofList (substr str lastPos pos)]
    let lastPos := findFirst false str delimiters pos
    pure (.inl (tokens, lastPos, findFirst true str delimiters lastPos))

/-- `stringTokenizer`. A position that is `none` is `npos`. -/
def stringTokenizer (str delimiters : List Char) : Fueled Stop (List String) :=
  let lastPos := findFirst false str delimiters (some 0)
  .loop (tokenRound str delimiters) ([], lastPos, findFirst true str delimiters lastPos)

def pushAt {α : Type} (lists : List (List α)) (i : Nat) (x : α) : List (List α) := lists.modify i (· ++ [x])

/-- The tokens of the `i`-th word of a line are entered in the `i`-th list, whatever earlier lines
have entered there. -/
def enterTokens {α : Type} (entry : String → Except Stop α) (lists : List (List α)) (i : Nat) (tokens : List String) :
    Except Stop (List (List α)) :=
  tokens.foldlM (fun lists token => do
    let x ← entry token
    return pushAt lists i x) (lists ++ [[]])

def readLists {α : Type} (entry : String → Except Stop α) (lists : List (List α)) (words : List String) :
    Fueled Stop (List (List α)) :=
  words.zipIdx.foldlM (fun lists (word, i) => do
    let tokens ← stringTokenizer word.toList ['+']
    .done (enterTokens entry lists i tokens)) lists

/-- `DeviceMap.find(token)->second`. -/
def findDevice (tm : ThermalMain) (token : String) : Except Stop (Option Nat) :=
  match tm.deviceMap token with
  | none => .error .undefined
  | some device => .ok device

def lowactive (s : Strings) : Bool := s.value = "true"

namespace MonitorBody

def simpleProperty (tm : ThermalMain) (body : MonitorBody) (s : Strings) : MonitorBody × Strings :=
  if s.prop = "sampling" then
    let s := s.readValue
    ({ body with samplingTime := IntType.u32.convert (atoi s.value) }, s)
  else if s.prop = "sensor" then
    let s := s.readValue
    ({ body with sensor := tm.sensorMap s.value }, s)
  else if s.prop = "thresholds" then
    let (values, s) := s.readValues
    ({ body with thresholds := body.thresholds ++ values.map atoi }, s)
  else if s.prop = "thresholds_clr" then
    let (values, s) := s.readValues
    ({ body with thresholdsClr := body.thresholdsClr ++ values.map atoi }, s)
  else if s.prop = "lowactive" then
    let s := s.readValue
    ({ body with isNegative := lowactive s }, s)
  else (body, s)

def property (tm : ThermalMain) (body : MonitorBody) (s : Strings) : Fueled Stop (MonitorBody × Strings) :=
  if s.prop = "actions" then do
    let (values, s) := s.readValues
    let device ← readLists (findDevice tm) body.device values
    return ({ body with device := device }, s)
  else if s.prop = "action_info" then do
    let (values, s) := s.readValues
    let actionInfo ← readLists (fun token => .ok (atoi token)) body.actionInfo values
    return ({ body with actionInfo := actionInfo }, s)
  else pure (body.simpleProperty tm s)

def missing (body : MonitorBody) : Bool :=
  body.sensor.isNone || body.thresholds.isEmpty || body.thresholdsClr.isEmpty || body.device.isEmpty ||
    body.actionInfo.isEmpty

end MonitorBody

namespace SSBody

def property (tmBody : ThermalMain × SSBody) (s : Strings) : (ThermalMain × SSBody) × Strings :=
  let (tm, body) := tmBody
  if s.prop = "sampling" then
    let s := s.readValue
    ((tm, { body with samplingTime := IntType.u32.convert (atoi s.value) }), s)
  else if s.prop = "sensor" then
    let s := s.readValue
    ((tm, { body with sensor := tm.sensorMap s.value }), s)
  else if s.prop = "device" then
    let s := s.readValue
    let device := (tm.deviceMap s.value).getD none
    let tm := { tm with deviceMap := Function.update tm.deviceMap s.value (some device) }
    ((tm, { body with device := device }), s)
  else if s.prop = "set_point" then
    let s := s.readValue
    ((tm, { body with setPoint := atoi s.value }), s)
  else if s.prop = "set_point_clr" then
    let s := s.readValue
    ((tm, { body with setPointClr := atoi s.value }), s)
  else if s.prop = "device_perf_floor" then
    let s := s.readValue
    ((tm, { body with devicePerfFloor := atoi s.value }), s)
  else if s.prop = "time_tick_trigger" then
    let s := s.readValue
    ((tm, { body with timeTick := atoi s.value }), s)
  else if s.prop = "start_level" then
    let s := s.readValue
    ((tm, { body with startLevel := atoi s.value }), s)
  else if s.prop = "lowactive" then
    let s := s.readValue
    ((tm, { body with isNegative := lowactive s }), s)
  else ((tm, body), s)

def missing (body : SSBody) : Bool :=
  body.sensor.isNone || body.device.isNone || body.setPoint = 0 || body.setPointClr = 0

end SSBody

def failStart : String := "[CONF PARSE FAIL] Each item should be started with 'SCEN' or embraced with [name]\n"

def failAlgoType : String := "[CONF PARSE FAIL] Each item's property should contain & start with 'algo_type'\n"

def failMissing (name : String) : String := "[CONF PARSE FAIL] There is some missing property for " ++ name ++ "\n"

def failType : String := "[CONF PARSE FAIL] Algo type should be 'monitor' or 'SS'\n"

namespace Conf

def register (conf : Conf) (name scenName : String) (body : ConfBody) : Conf :=
  { conf with items := conf.items ++ [{ name := name, scenName := scenName, body := body }] }

/-- `parsedScenMap[scenName]`. -/
def openScenario (conf : Conf) (scenName : String) : Conf :=
  if scenName ∈ conf.scenarios then conf else { conf with scenarios := conf.scenarios ++ [scenName] }

end Conf

structure ConfState where
  tm : ThermalMain
  conf : Conf := {}
  scenName : String := "Default"
  vars : Vars

def closes (prop : String) : Bool := prop = "]"

namespace ConfBody

def ofType (algoType : String) : Option ConfBody :=
  if algoType = "monitor" then some (.monitor {})
  else if algoType = "ss" then some (.ss {})
  else none

def property : ThermalMain × ConfBody → Strings → Fueled Stop ((ThermalMain × ConfBody) × Strings)
  | (tm, .monitor body), s => do
    let (body, s) ← body.property tm s
    return ((tm, .monitor body), s)
  | (tm, .ss body), s =>
    let ((tm, body), s) := SSBody.property (tm, body) s
    pure ((tm, .ss body), s)

def missing : ConfBody → Bool
  | .monitor body => body.missing
  | .ss body => body.missing

end ConfBody

def confBody (s : ConfState) : Fueled Stop ConfState :=
  match ConfBody.ofType s.vars.value with
  | none => .fail (.parseFail failType)
  | some body => do
    let ((tm, body), v) ← properties closes ConfBody.property ((s.tm, body), s.vars.getString.2.readProp)
    if body.missing then .fail (.parseFail (failMissing v.name))
    return { s with tm := tm, conf := s.conf.register v.name s.scenName body, vars := v }

def confStart (s : ConfState) : ConfState :=
  if s.vars.prop = "SCEN" then
    let v := s.vars.readValue
    { s with scenName := v.value, conf := s.conf.openScenario v.value, vars := v.getString.2.readName }
  else if s.vars.prop = "]" then { s with scenName := "Default", vars := s.vars.getString.2.readName }
  else { s with vars := { s.vars with name := s.vars.prop } }

def confItem (s : ConfState) : Fueled Stop ConfState :=
  if s.vars.unbracketed then .fail (.parseFail failStart)
  else do
    let strings ← .done s.vars.eraseBrackets
    let v := ({ strings with file := s.vars.file } : Vars).getString.2.readProp
    if v.prop ≠ "algo_type" then .fail (.parseFail failAlgoType)
    else confBody { s with vars := v.readValue }

def startRound (v : Vars) : Fueled Stop (Vars ⊕ Vars) :=
  if v.prop = "" then pure (.inl v.readProp) else pure (.inr v)

/-- `prop.clear()` and the loop that reads until `prop` is not empty. Words have no blanks to trim. -/
def readStart (v : Vars) : Fueled Stop Vars := .loop startRound { v with prop := "" }

def confRound (s : ConfState) : Fueled Stop (ConfState ⊕ (ThermalMain × Conf)) :=
  if s.vars.file.eof then pure (.inr (s.tm, s.conf))
  else do
    let (eof, v) := s.vars.getString
    if eof then return .inl { s with vars := v }
    let v ← readStart v
    let s ← confItem (confStart { s with vars := v })
    return .inl s

def confParse (tm : ThermalMain) (confFile : File) : Fueled Stop (ThermalMain × Conf) :=
  .loop confRound { tm := tm, vars := { file := confFile } }

end ExynosHal.Thermal.Parser
