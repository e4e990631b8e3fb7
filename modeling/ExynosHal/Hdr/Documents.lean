import ExynosHal.Hdr.DatNode

/-! # Documents and the tables packed from them

The documents stand here as the XML readers leave them: names of gamuts, transfer
functions and capabilities resolved, value lists split into numbers. What is modelled is
which submodules are packed for which layer, and which entry of a table wins.
-/

namespace ExynosHal.Hdr

inductive HdrCapa where
  | inner | outer | max
  deriving DecidableEq

inductive HdrBpc where
  | bpc8 | bpc10 | fp16 | max
  deriving DecidableEq

structure TargetInfo where
  dataspace : U32
  minLuminance : U32
  maxLuminance : U32
  bpc : HdrBpc
  hdrCapa : HdrCapa
  deriving DecidableEq

/-- `HAL_DATASPACE_STANDARD_MASK`, six bits from bit 16 on. -/
def dataspaceStandardMask : U32 := 0x003F0000#32

/-- `HAL_DATASPACE_TRANSFER_MASK`, five bits from bit 22 on. -/
def dataspaceTransferMask : U32 := 0x07C00000#32

def dataspaceTransferSrgb : U32 := 0x00800000#32

/-- `HAL_DATASPACE_STANDARD_MASK | HAL_DATASPACE_TRANSFER_MASK`. -/
def dataspaceMask : U32 := dataspaceStandardMask ||| dataspaceTransferMask

def gamutOf (dataspace : U32) : Nat := ((dataspace &&& dataspaceStandardMask) >>> 16).toNat

def transferOf (dataspace : U32) : Nat := ((dataspace &&& dataspaceTransferMask) >>> 22).toNat

structure HwModule where
  ids : List Int
  subModules : List (String × SubModule)

/-- Modules are inserted in the order of the document and the first one for a layer stays;
the same holds for the submodules of a module. -/
abbrev HwDoc := List HwModule

namespace HwDoc

def subModule? (hw : HwDoc) (layer : Int) (name : String) : Option SubModule := do
  let module ← hw.find? fun m => decide (layer ∈ m.ids)
  module.subModules.lookup name

def hasSubMod (hw : HwDoc) (layer : Int) (name : String) : Bool := (hw.subModule? layer name).isSome

def getLayerNum (hw : HwDoc) : Nat := (hw.flatMap HwModule.ids).dedup.length

/-- `hdrHwDPU::pack`; a missing name is inserted as an empty submodule. -/
def pack (hw : HwDoc) (name : String) (layer : Int) (lut : List U32) (out : DatNode) : Option (Int × DatNode) :=
  ((hw.subModule? layer name).getD {}).pack lut out

def packNew (hw : HwDoc) (layer : Int) (name : String) (lut : List U32) : Option DatNode := do
  let (_, node) ← hw.pack name layer lut {}
  some node

/-- The size `resize` gives a vector for the submodule; it throws for a negative one. -/
def nodeNum (hw : HwDoc) (layer : Int) (name : String) : Option Nat :=
  let numNodes := ((hw.subModule? layer name).getD {}).numNodes
  if 0 ≤ numNodes then some numNodes.toNat else none

end HwDoc

/-- One `hdr10-node`, `hdr10p-node`, `hlg-node` or `hdr-tune-node`; the last two have no luminance. -/
structure LutNode where
  maxLuminance : U32 := 0
  values : List (String × List U32)

structure LutModule where
  layers : List Int
  nodes : List LutNode

abbrev LutDoc := List LutModule

structure PackedNode where
  maxLuminance : U32
  coefPacked : List DatNode

abbrev LutTable := List (Int × List PackedNode)

/-- `parse_hdr10Node` and its three likes. -/
def parseNode (hw : HwDoc) (layer : Int) (node : LutNode) : Option PackedNode := do
  let given := node.values.filter fun v => hw.hasSubMod layer v.1
  let coefPacked ← given.mapM fun v => hw.packNew layer v.1 v.2
  some ⟨node.maxLuminance, coefPacked⟩

def parseMod (hw : HwDoc) (layer : Int) (nodes : List LutNode) : Option (List PackedNode) :=
  nodes.mapM (parseNode hw layer)

def insertMod (table : LutTable) (layer : Int) (nodes : List PackedNode) : Option LutTable :=
  match table.lookup layer with
  | some _ => some table
  | none => some (table ++ [(layer, nodes)])

/-- `operator=` of a vector of nodes, which assigns in place unless the vector has to grow. -/
def assignCoefs (old new : List DatNode) : Option (List DatNode) :=
  if new.length ≤ old.length then new.mapM DatNode.assign else some new

def assignNodes (old new : List PackedNode) : Option (List PackedNode) :=
  if new.length ≤ old.length then
    (old.zip new).mapM fun (o, n) => do
      let coefPacked ← assignCoefs o.coefPacked n.coefPacked
      some ⟨n.maxLuminance, coefPacked⟩
  else some new

/-- `layerToHdrTuneMod[modId] = hdrTuneMod`. -/
def assignMod (table : LutTable) (layer : Int) (nodes : List PackedNode) : Option LutTable := do
  let assigned ← assignNodes ((table.lookup layer).getD []) nodes
  some ((layer, assigned) :: table.filter fun entry => decide (entry.1 ≠ layer))

def LutDoc.modules (doc : LutDoc) : List (Int × List LutNode) :=
  doc.flatMap fun m => m.layers.map fun layer => (layer, m.nodes)

/-- `parse_hdr10Mods` and its three likes. -/
def parseMods (hw : HwDoc) (finish : List PackedNode → List PackedNode)
    (store : LutTable → Int → List PackedNode → Option LutTable) (doc : LutDoc) (table : LutTable) :
    Option LutTable :=
  doc.modules.foldlM (fun table m => do
    let nodes ← parseMod hw m.1 m.2
    store table m.1 (finish nodes)) table

structure InfoNode where
  capa : HdrCapa
  gamut : Nat
  transferFunction : Nat
  filename : String

def getFileName (nodes : List InfoNode) (target : TargetInfo) : String :=
  let found := nodes.find? fun v =>
    decide ((v.capa = .max ∨ v.capa = target.hdrCapa) ∧ (v.gamut = 0 ∨ v.gamut = gamutOf target.dataspace) ∧
      (v.transferFunction = 0 ∨ v.transferFunction = transferOf target.dataspace))
  (found.map InfoNode.filename).getD ""

/-- The tables of a `wcgModule`: `modEnTable`, `eotfTable`, `oetfTable` and `gmTable`. -/
inductive WcgSlot where
  | modEn (neq : Bool)
  | eotf (transfer : Fin 9)
  | oetf (transfer : Fin 9)
  | gm (input output : Fin 12)
  deriving DecidableEq

structure WcgEntry where
  slot : WcgSlot
  subModName : String
  values : List U32

structure CustomEntry where
  input : U32
  output : U32
  capa : HdrCapa

structure WcgElement where
  layers : List Int
  entries : List WcgEntry
  custom : List CustomEntry

structure WcgModule where
  data : List ((WcgSlot × String) × DatNode) := []
  customTable : List (U32 × (U32 × HdrCapa)) := []

abbrev WcgTable := List (Int × WcgModule)

def parseWcgEntry (hw : HwDoc) (layer : Int) (module : WcgModule) (entry : WcgEntry) : Option WcgModule :=
  if hw.hasSubMod layer entry.subModName then do
    let packed ← hw.packNew layer entry.subModName entry.values
    let node ← packed.assign
    match entry.slot, entry.values with
    | .modEn _, [] => none
    | _, _ =>
      match module.data.lookup (entry.slot, entry.subModName) with
      | some _ => some module
      | none => some { module with data := module.data ++ [((entry.slot, entry.subModName), node)] }
  else some module

def parseInoutCustom (module : WcgModule) (entry : CustomEntry) : WcgModule :=
  if entry.input = 0 then module
  else { module with customTable := (entry.input, (entry.output, entry.capa)) :: module.customTable }

theorem parseInoutCustom_data (module : WcgModule) (custom : List CustomEntry) :
    (custom.foldl parseInoutCustom module).data = module.data := by
  induction custom generalizing module with
  | nil => rfl
  | cons entry custom ih =>
    rw [List.foldl_cons, ih, parseInoutCustom]
    split <;> rfl

def parseWcgMod (hw : HwDoc) (layer : Int) (element : WcgElement) (module : WcgModule) : Option WcgModule := do
  let module ← element.entries.foldlM (parseWcgEntry hw layer) module
  some (element.custom.foldl parseInoutCustom module)

def parseWcgElement (hw : HwDoc) (table : WcgTable) (element : WcgElement) : Option WcgTable := do
  let (table, _) ← element.layers.foldlM (fun (table, module) layer => do
    let module ← parseWcgMod hw layer element module
    match table.lookup layer with
    | some _ => some (table, module)
    | none => some (table ++ [(layer, module)], module)) (table, ({} : WcgModule))
  some table

def parseWcgMods (hw : HwDoc) (elements : List WcgElement) : Option WcgTable := elements.foldlM (parseWcgElement hw) []

/-- A `tonemap-module-specifier` or `eotf-module-specifier` element. -/
structure CurveElement where
  modEn : Option String := none
  modX : Option String := none
  modY : Option String := none
  modXBit : Option Int := none
  modYBit : Option Int := none
  modMinxBit : Option Int := none

structure PqElement where
  modEn : Option String := none
  pqEn : Option String := none
  coef : Option String := none
  shift : Option String := none

structure SpecifierElement where
  layers : List Int
  tonemap : Option CurveElement := none
  pq : Option PqElement := none
  eotf : Option CurveElement := none

structure CurveSpecifier where
  has : Bool
  modEnId : String
  modXId : String
  modYId : String
  modXBit : Option Int
  modYBit : Option Int
  modMinxBit : Option Int

structure PqSpecifier where
  has : Bool
  modEnId : String
  pqEnId : String
  coefId : String
  shiftId : String

/-- The specifiers of a layer. Without its element nothing sets `has`, and reading it is undefined.
The packed nodes are left out: every build-up packs them anew before it queues them. -/
structure ModuleSpecifier where
  tonemap : Option CurveSpecifier
  pq : Option PqSpecifier
  eotf : Option CurveSpecifier

/-- `parse_tonemapModSpecifier` and `parse_eotfModSpecifier`. -/
def parseCurveSpecifier (hw : HwDoc) (layer : Int) (element : CurveElement) : CurveSpecifier :=
  let checked := element.modEn.isSome || element.modX.isSome || element.modY.isSome ||
    element.modXBit.isSome || element.modYBit.isSome || element.modMinxBit.isSome
  let modEnId := element.modEn.getD ""
  let modXId := element.modX.getD ""
  let modYId := element.modY.getD ""
  { has := checked && hw.hasSubMod layer modXId && hw.hasSubMod layer modYId && hw.hasSubMod layer modEnId
    modEnId, modXId, modYId
    modXBit := element.modXBit
    modYBit := element.modYBit
    modMinxBit := element.modMinxBit }

def parsePqSpecifier (hw : HwDoc) (layer : Int) (element : PqElement) : PqSpecifier :=
  let checked := element.modEn.isSome || element.pqEn.isSome || element.coef.isSome || element.shift.isSome
  let modEnId := element.modEn.getD ""
  let pqEnId := element.pqEn.getD ""
  let coefId := element.coef.getD ""
  let shiftId := element.shift.getD ""
  { has := checked && hw.hasSubMod layer modEnId && hw.hasSubMod layer pqEnId && hw.hasSubMod layer coefId &&
      hw.hasSubMod layer shiftId
    modEnId, pqEnId, coefId, shiftId }

/-- The entry of `layerToHdrModSpecifier`; the last element that lists the layer wins. -/
def moduleSpecifier (hw : HwDoc) (elements : List SpecifierElement) (layer : Int) : Option ModuleSpecifier := do
  let element ← elements.reverse.find? fun e => decide (layer ∈ e.layers)
  some {
    tonemap := element.tonemap.map (parseCurveSpecifier hw layer)
    pq := element.pq.map (parsePqSpecifier hw layer)
    eotf := element.eotf.map (parseCurveSpecifier hw layer) }

/-- What is on disk. A file that is missing or has another root is `none`, or an empty list. -/
structure Documents where
  hw : HwDoc
  wcg : List WcgElement := []
  hdr10Info : List InfoNode := []
  hdr10pInfo : List InfoNode := []
  hlgInfo : List InfoNode := []
  hdr10File : String → Option LutDoc := fun _ => none
  hdr10pFile : String → Option LutDoc := fun _ => none
  hlgFile : String → Option LutDoc := fun _ => none
  tune : LutDoc := []
  specifiers : List SpecifierElement := []

end ExynosHal.Hdr
