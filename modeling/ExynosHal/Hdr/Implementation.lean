import ExynosHal.Hdr.Context

/-! # The calls of `hdrImplementation`

The state of the library between two calls and what each call does to it. Only the DPU
has layers, so every access through another hardware id is undefined.
-/

namespace ExynosHal.Hdr

inductive HdrHwId where
  | dpu | g2d | max
  deriving DecidableEq

inductive PerFrameState where
  | objReady | targetReady | buildUpReady
  deriving DecidableEq

inductive HdrErr where
  | no | inval
  deriving DecidableEq

/-- The context and the tables. Before the first `setTargetInfo` the target is indeterminate. -/
structure Impl where
  state : PerFrameState := .objReady
  hwId : HdrHwId := .max
  logLevel : Int := 0
  tuneMode : Bool := false
  tuneReload : Bool := false
  hasHdrLayer : Bool := false
  target : Option TargetInfo := none
  sourceLuminance : U32 := 0
  targetLuminance : TargetLuminance := {}
  layers : List Layer
  wcg : WcgTable
  hdr10 : LutTable := []
  hdr10p : LutTable := []
  hlg : LutTable := []
  tune : LutTable

section
variable (p : Platform) (d : Documents) (target : TargetInfo)

/-- A table after `parse`, which does nothing when there is no document. -/
def loadTable (finish : List PackedNode → List PackedNode) (doc : Option LutDoc) (table : LutTable) :
    Option LutTable :=
  match doc with
  | some doc => parseMods d.hw finish insertMod doc table
  | none => some table

def hdr10Doc : Option LutDoc := d.hdr10File (getFileName d.hdr10Info target)

def hdr10pDoc : Option LutDoc := d.hdr10pFile (getFileName d.hdr10pInfo target)

def hlgDoc : Option LutDoc := d.hlgFile (getFileName d.hlgInfo target)

def parseHdr10 (table : LutTable) : Option LutTable := loadTable d p.sortAscending (hdr10Doc d target) table

def parseHdr10p (table : LutTable) : Option LutTable := loadTable d p.sortAscending (hdr10pDoc d target) table

def parseHlg (table : LutTable) : Option LutTable := loadTable d id (hlgDoc d target) table

def parseTune (table : LutTable) : Option LutTable := parseMods d.hw id assignMod d.tune table

end

def Impl.create (d : Documents) : Option Impl := do
  let wcg ← parseWcgMods d.hw d.wcg
  let tune ← parseTune d []
  some { layers := (List.range d.hw.getLayerNum).map fun i => { layerIndex := i }, wcg, tune }

namespace Impl

variable (p : Platform) (d : Documents)

/-- `Layers[hw_id][layer_index]`. -/
def layer? (s : Impl) (hwId : HdrHwId) (l : Nat) : Option Layer :=
  match hwId with
  | .dpu => s.layers[l]?
  | .g2d | .max => none

def setLayer (s : Impl) (l : Nat) (layer : Layer) : Impl := { s with layers := s.layers.set l layer }

def contextSetTargetInfo (s : Impl) (target : TargetInfo) : Impl := { s with
    target := some target
    targetLuminance :=
      { s.targetLuminance with default := if target.maxLuminance = 0 then 500 else target.maxLuminance }
    layers := s.layers.map fun layer => { layer with targetChanged := true } }

/-- `setTargetInfo`: the HDR tables are read only the first time. -/
def setTargetInfo (s : Impl) (target : TargetInfo) : Option Impl := do
  let s := s.contextSetTargetInfo target
  match s.state with
  | .objReady =>
    let hdr10 ← parseHdr10 p d target s.hdr10
    let hdr10p ← parseHdr10p p d target s.hdr10p
    let hlg ← parseHlg d target s.hlg
    some { s with hdr10, hdr10p, hlg, state := .targetReady }
  | .targetReady | .buildUpReady => some { s with state := .targetReady }

def setHDRlayer (s : Impl) (hasHdr : Bool) : Option Impl :=
  let s := { s with hasHdrLayer := hasHdr }
  match hasHdr, p.metaIf with
  | true, some metaIf => do
    let target ← s.target
    let luminance := metaIf.getTargetLuminance target.hdrCapa s.targetLuminance.default
    some { s with targetLuminance := { s.targetLuminance with interface := luminance.getD 0 } }
  | _, _ => some { s with targetLuminance := { s.targetLuminance with interface := 0 } }

def initHdrCoefBuildup (s : Impl) (hwId : HdrHwId) : Option Impl :=
  match s.state with
  | .objReady => some s
  | .targetReady | .buildUpReady =>
    match hwId with
    | .dpu =>
      some { s with
        state := .buildUpReady
        hwId
        layers := s.layers.map fun layer => { layer with state := .init } }
    | .g2d => some { s with state := .buildUpReady, hwId }
    | .max => none

def setLogLevel (s : Impl) (logLevel : Int) : Impl :=
  let apply (s : Impl) (logLevel : Int) : Impl :=
    { s with logLevel, layers := s.layers.map fun layer => { layer with logLevel } }
  if logLevel = 0 then
    apply { s with
      tuneMode := false
      tuneReload := false
      targetLuminance := { s.targetLuminance with command := 0 }
      sourceLuminance := 0 } 0
  else if logLevel = -1 then apply { s with tuneMode := true, tuneReload := true } s.logLevel
  else if logLevel < 0 then
    apply { s with
      targetLuminance := { s.targetLuminance with command := BitVec.ofNat 32 logLevel.natAbs } } s.logLevel
  else if 100 < logLevel then apply { s with sourceLuminance := BitVec.ofInt 32 logLevel } s.logLevel
  else apply s logLevel

def formatBuildup (s : Impl) (hdrType : LayerHdrType) (based : Layer) : Option (Layer × Bool) :=
  match hdrType with
  | .none => some (based, true)
  | .hdr10 => hdr10CoefBuildup p d s.sourceLuminance s.hdr10 based
  | .hdr10p => hdr10pCoefBuildup p d s.hdr10p based
  | .hlg => hlgCoefBuildup p d s.hlg based

/-- The part of `setLayerInfo` after `save`, without the tuning tables. -/
def coefBuildup (s : Impl) (hdrType : LayerHdrType) (layer : Layer) : Option (Layer × Bool) := do
  let target ← s.target
  let based ← wcgCoefBuildup p s.wcg target layer
  s.formatBuildup p d hdrType based

def reloadTune (s : Impl) : Option Impl :=
  if s.tuneReload then do
    let tune ← parseTune d s.tune
    some { s with tune, tuneReload := false }
  else some s

def finishLayer (s : Impl) (l : Nat) (built : Layer × Bool) : Impl × HdrErr :=
  if built.2 then (s.setLayer l { built.1 with state := .buildUpReady }, .no)
  else (s.setLayer l { built.1 with state := .init }, .inval)

def rebuild (s : Impl) (l : Nat) (hdrType : LayerHdrType) (info : LayerInfo) (layer : Layer) :
    Option (Impl × HdrErr) := do
  let saved := layer.save p s.targetLuminance info
  if hdrType ≠ .none ∧ s.tuneMode = true then
    let s ← s.reloadTune d
    let built ← tuneCoefBuildup p s.tune saved
    some (s.finishLayer l built)
  else
    let built ← s.coefBuildup p d hdrType saved
    some (s.finishLayer l built)

/-- The info as `changed` and `save` see it. -/
def refined (info : LayerInfo) : LayerInfo := { info with dataspace := refineTransfer p.osVersion info.dataspace }

def setLayerInfo (s : Impl) (l : Nat) (info : LayerInfo) : Option (Impl × HdrErr) :=
  match s.state with
  | .buildUpReady => do
    let layer ← s.layer? s.hwId l
    let hdrType := getHdrType info
    let info := refined p info
    if layer.changed p info then s.rebuild p d l hdrType info layer
    else some (s.setLayer l { layer.transfer with state := .buildUpReady }, .no)
  | .objReady | .targetReady => some (s, .inval)

end Impl

/-- The four words of `hdr_coef_header::init`. -/
def coefHeader (layer : Layer) (totalBytesize : U32) (shall need : Nat) : List Word :=
  let byte (n : Int) (i : Nat) : U32 := (BitVec.ofInt 8 n).setWidth 32 <<< (8 * i)
  let half (n : Nat) (i : Nat) : U32 := (BitVec.ofNat 16 n).setWidth 32 <<< (16 * i)
  [some totalBytesize, some (1 ||| byte layer.layerIndex 1 ||| byte layer.logLevel 2),
    some (byte layer.active.toNat 1), some (half shall 0 ||| half need 1)]

def totalBytesize (nodes : List DatNode) : U32 := nodes.foldl (fun total node => total + node.size) 16

/-- The nodes of a list written one behind the other; `wr_offset` is an `int`. -/
def writeNodes (written : List Word) (nodes : List DatNode) : Option (List Word) := nodes.foldlM (fun written node => do
    let words ← node.serialize
    if 4 * written.length < 2 ^ 31 then some (written ++ words) else none) written

def Layer.getHdrCoefData (layer : Layer) : Option (Layer × Option (List Word)) :=
  let lists := layer.lists.cleanDuplicate
  let layer := { layer with lists }
  if layer.layerChanged then do
    let nodes := lists.shallNodes ++ lists.needNodes
    let header := coefHeader layer (totalBytesize nodes) lists.shallNodes.length lists.needNodes.length
    let parcel ← writeNodes header nodes
    some (layer, some parcel)
  else some (layer, none)

namespace Impl

variable (p : Platform) (d : Documents)

def getHdrCoefData (s : Impl) (hwId : HdrHwId) (l : Nat) : Option (Impl × HdrErr × Option (List Word)) :=
  match s.state with
  | .buildUpReady => do
    let layer ← s.layer? hwId l
    match layer.state with
    | .buildUpReady => do
      let (layer, parcel) ← layer.getHdrCoefData
      some (s.setLayer l layer, .no, parcel)
    | .init => some (s, .inval, none)
  | .objReady | .targetReady => some (s, .inval, none)

end Impl

inductive Call where
  | setTargetInfo (target : TargetInfo)
  | setHDRlayer (hasHdr : Bool)
  | setLogLevel (logLevel : Int)
  | initHdrCoefBuildup (hwId : HdrHwId)
  | setLayerInfo (l : Nat) (info : LayerInfo)
  | getHdrCoefData (hwId : HdrHwId) (l : Nat)

def step (p : Platform) (d : Documents) (s : Impl) : Call → Option Impl
  | .setTargetInfo target => s.setTargetInfo p d target
  | .setHDRlayer hasHdr => s.setHDRlayer p hasHdr
  | .setLogLevel logLevel => some (s.setLogLevel logLevel)
  | .initHdrCoefBuildup hwId => s.initHdrCoefBuildup hwId
  | .setLayerInfo l info => (s.setLayerInfo p d l info).map Prod.fst
  | .getHdrCoefData hwId l => (s.getHdrCoefData hwId l).map Prod.fst

def run (p : Platform) (d : Documents) (calls : List Call) : Option Impl := do
  let s ← Impl.create d
  calls.foldlM (step p d) s

end ExynosHal.Hdr
