import ExynosHal.Hdr.Documents
import Mathlib.Data.List.Sort

/-! # Layers and the build-up of their coefficients

`_HdrLayerInfo_` of `hdrContext.cpp` with the build-ups that fill its lists. A build-up
queues nodes one after the other and never reads the lists in between, so it is given
here by the nodes it queues, in order.
-/

namespace ExynosHal.Hdr

/-- The window-0 fields of `ExynosHdrDynamicInfo` (`USE_FULL_ST2094_40`) that are converted. -/
structure DynamicInfo where
  valid : U32
  countryCode : U8
  providerCode : U16
  providerOrientedCode : U16
  applicationIdentifier : U8
  applicationVersion : U8
  targetedSystemDisplayMaximumLuminance : U32
  maxscl : Fin 3 → U32
  numMaxrgbPercentiles : U8
  maxrgbPercentages : Fin 15 → U8
  maxrgbPercentiles : Fin 15 → U32
  toneMappingFlag : U8
  kneePointX : U16
  kneePointY : U16
  numBezierCurveAnchors : U8
  bezierCurveAnchors : Fin 15 → U16

/-- `ExynosHdrDynamicInfo_legacy`; `reserved` is neither written nor read. -/
structure DynMeta where
  valid : U32 := 0
  countryCode : U8 := 0
  providerCode : U16 := 0
  providerOrientedCode : U16 := 0
  applicationIdentifier : U8 := 0
  applicationVersion : U16 := 0
  displayMaximumLuminance : U32 := 0
  maxscl : Fin 3 → U32 := fun _ => 0
  numMaxrgbPercentiles : U8 := 0
  maxrgbPercentages : Fin 15 → U8 := fun _ => 0
  maxrgbPercentiles : Fin 15 → U32 := fun _ => 0
  toneMappingFlag : U16 := 0
  kneePointX : U16 := 0
  kneePointY : U16 := 0
  numBezierCurveAnchors : U16 := 0
  bezierCurveAnchors : Fin 15 → U16 := fun _ => 0

def convertDynamicMeta (info : DynamicInfo) : DynMeta where
  valid := info.valid
  countryCode := info.countryCode
  providerCode := info.providerCode
  providerOrientedCode := info.providerOrientedCode
  applicationIdentifier := info.applicationIdentifier
  applicationVersion := info.applicationVersion.setWidth 16
  displayMaximumLuminance := info.targetedSystemDisplayMaximumLuminance
  maxscl := info.maxscl
  numMaxrgbPercentiles := info.numMaxrgbPercentiles
  maxrgbPercentages := info.maxrgbPercentages
  maxrgbPercentiles := info.maxrgbPercentiles
  toneMappingFlag := info.toneMappingFlag.setWidth 16
  kneePointX := info.kneePointX
  kneePointY := info.kneePointY
  numBezierCurveAnchors := info.numBezierCurveAnchors.setWidth 16
  bezierCurveAnchors := info.bezierCurveAnchors

/-- `hdrMetaInterface`; `none` is an error code. -/
structure MetaInterface where
  convertHDR10pMeta : DynamicInfo → U32 → Option DynamicInfo
  getTargetLuminance : HdrCapa → U32 → Option U32

structure CurveInfo where
  inDataspace : U32
  maxInLumi : U32
  maxOutLumi : U32
  metaIf : Option MetaInterface := none

/-- A curve generator fills both vectors with as many points as it is asked for;
the last three arguments are `x_bits`, `y_bits` and `minx_bits`. -/
abbrev Curve := (n : Nat) → Int → Int → Int → Option (Vector (U32 × U32) n)

/-- Orders that the C++ library leaves open, sizes, the plugin and the arithmetic of the curves. -/
structure Platform where
  nameOrder : List String → List String
  nameOrder_perm : ∀ names, (nameOrder names).Perm names
  groupOrder : List Int → List Int
  groupOrder_perm : ∀ ids, (groupOrder ids).Perm ids
  sortAscending : List PackedNode → List PackedNode
  sortAscending_perm : ∀ nodes, (sortAscending nodes).Perm nodes
  sortAscending_sorted : ∀ nodes, (sortAscending nodes).Pairwise fun a b => a.maxLuminance.toInt ≤ b.maxLuminance.toInt
  sizeofStaticInfo : Int
  sizeofDynamicInfo : Int
  osVersion : Int
  metaIf : Option MetaInterface
  genTMCurve : CurveInfo → Curve
  genTMCurveDynamic : CurveInfo → DynMeta → Curve
  genEOTFCurve : CurveInfo → Curve
  genEotfPQ : U32 → U32 × U32
  getMaxLuminance : U32 → DynMeta → U32

def plainPlatform : Platform where
  nameOrder := id
  nameOrder_perm _ := .refl _
  groupOrder := id
  groupOrder_perm _ := .refl _
  sortAscending := List.insertionSort fun a b => a.maxLuminance.toInt ≤ b.maxLuminance.toInt
  sortAscending_perm _ := List.perm_insertionSort _ _
  sortAscending_sorted nodes :=
    have : Std.Total fun a b : PackedNode => a.maxLuminance.toInt ≤ b.maxLuminance.toInt := ⟨fun _ _ => le_total _ _⟩
    have : IsTrans PackedNode fun a b => a.maxLuminance.toInt ≤ b.maxLuminance.toInt := ⟨fun _ _ _ => le_trans⟩
    List.pairwise_insertionSort _ nodes
  sizeofStaticInfo := 52
  sizeofDynamicInfo := 1716
  osVersion := 12
  metaIf := none
  genTMCurve _ _ _ _ _ := none
  genTMCurveDynamic _ _ _ _ _ _ := none
  genEOTFCurve _ _ _ _ _ := none
  genEotfPQ _ := (0, 0)
  getMaxLuminance targetLuminance _ := targetLuminance

def srgbTarget : TargetInfo := ⟨0x00810000, 0, 500, .bpc8, .inner⟩

structure StaticInfo where
  maxDisplayLuminance : U32
  maxContentLightLevel : U32

structure LayerInfo where
  dataspace : U32
  staticMetadata : Option StaticInfo := none
  staticLen : Int := 0
  dynamicMetadata : Option DynamicInfo := none
  dynamicLen : Int := 0
  premultAlpha : Bool := false
  bpc : HdrBpc := .bpc8
  /-- The entries as IEEE bit patterns. -/
  tfMatrix : Option (Fin 4 → Fin 4 → U32) := none
  bypass : Bool := false

inductive PerLayerState where
  | init | buildUpReady
  deriving DecidableEq

inductive LayerHdrType where
  | none | hdr10 | hdr10p | hlg
  deriving DecidableEq

structure Layer where
  layerIndex : Nat
  state : PerLayerState := .init
  active : Bool := false
  layerChanged : Bool := false
  targetLuminance : U32 := 0
  dataspace : U32 := 0
  premultAlpha : Bool := false
  bpc : HdrBpc := .bpc8
  bypass : Bool := false
  targetChanged : Bool := false
  masteringLuminance : U32 := 0
  maxCll : U32 := 0
  dynMeta : DynMeta := {}
  sourceLuminance : U32 := 0
  hasTfMatrix : Bool := false
  logLevel : Int := 0
  lists : Lists := {}

structure TargetLuminance where
  default : U32 := 0
  command : U32 := 0
  interface : U32 := 0
  deriving DecidableEq

def getHdrType (info : LayerInfo) : LayerHdrType :=
  if transferOf info.dataspace = 7 then
    if info.dynamicMetadata.isSome then .hdr10p else .hdr10
  else if transferOf info.dataspace = 8 then .hlg
  else .none

/-- `refineTransfer`: what is neither linear, sRGB, PQ nor HLG becomes sRGB, the gamma
curves only up to version 12. -/
def refineTransfer (osVersion : Int) (dataspace : U32) : U32 :=
  let transfer := transferOf dataspace
  if transfer = 1 ∨ transfer = 2 ∨ transfer = 7 ∨ transfer = 8 then dataspace
  else if (transfer = 3 ∨ transfer = 4 ∨ transfer = 5 ∨ transfer = 6) ∧ osVersion > 12 then dataspace
  else dataspace &&& ~~~dataspaceTransferMask ||| dataspaceTransferSrgb

namespace Layer

/-- `compare_matrix` with `transform_matrix`, which is zero from the start and never written. -/
def compareMatrix (matrix : Fin 4 → Fin 4 → U32) : Bool := decide (∀ i j, matrix i j &&& 0x7FFFFFFF#32 = 0)

def changed (p : Platform) (layer : Layer) (info : LayerInfo) : Bool := layer.targetChanged || !layer.active ||
  info.bpc != layer.bpc || info.premultAlpha != layer.premultAlpha || info.bypass != layer.bypass ||
  (match info.tfMatrix with
    | some matrix => !layer.hasTfMatrix || !compareMatrix matrix
    | none => layer.hasTfMatrix) ||
  getHdrType info != .none ||
  info.dataspace &&& dataspaceMask != layer.dataspace &&& dataspaceMask ||
  (match info.staticMetadata with
    | some given =>
      info.staticLen == p.sizeofStaticInfo &&
        (layer.masteringLuminance != given.maxDisplayLuminance / 10000 || layer.maxCll != given.maxContentLightLevel)
    | none => false) ||
  info.dynamicMetadata.isSome && info.dynamicLen == p.sizeofDynamicInfo

def setTargetLuminance (luminance : TargetLuminance) (info : LayerInfo) : U32 :=
  if luminance.command ≠ 0 then luminance.command
  else if luminance.interface ≠ 0 ∧ getHdrType info ≠ .none ∧ gamutOf info.dataspace = 6 then luminance.interface
  else luminance.default

def staticMeta (p : Platform) (info : LayerInfo) : U32 × U32 :=
  match info.staticMetadata with
  | some given =>
    if info.staticLen = p.sizeofStaticInfo then (given.maxDisplayLuminance / 10000, given.maxContentLightLevel)
    else (0, 0)
  | none => (0, 0)

def dynamicMeta (p : Platform) (targetLuminance : U32) (info : LayerInfo) (old : DynMeta) : DynMeta :=
  match info.dynamicMetadata with
  | some given =>
    if info.dynamicLen = p.sizeofDynamicInfo then
      let converted := p.metaIf.bind fun metaIf => metaIf.convertHDR10pMeta given targetLuminance
      convertDynamicMeta (converted.getD given)
    else old
  | none => old

def save (p : Platform) (luminance : TargetLuminance) (info : LayerInfo) (layer : Layer) : Layer :=
  let targetLuminance := setTargetLuminance luminance info
  { layer with
    dataspace := info.dataspace
    premultAlpha := info.premultAlpha
    bpc := info.bpc
    bypass := info.bypass
    hasTfMatrix := info.tfMatrix.isSome
    masteringLuminance := (staticMeta p info).1
    maxCll := (staticMeta p info).2
    targetLuminance
    dynMeta := dynamicMeta p targetLuminance info layer.dynMeta
    lists := {}
    targetChanged := false
    layerChanged := true }

def transfer (layer : Layer) : Layer := { layer with
    lists := layer.lists.transfer
    layerChanged := decide (layer.lists.shall ≠ []) }

def queue (p : Platform) (nodes : List DatNode) (layer : Layer) : Option Layer := do
  let lists ← layer.lists.queueAll nodes
  some { layer with lists := lists.pushGroups p.groupOrder }

end Layer

namespace WcgModule

def slotNodes (p : Platform) (module : WcgModule) (slot : WcgSlot) : List DatNode :=
  let names := (module.data.filter fun entry => decide (entry.1.1 = slot)).map fun entry => entry.1.2
  (p.nameOrder names).filterMap fun name => module.data.lookup (slot, name)

def outputDataspace (module : WcgModule) (target : TargetInfo) (input : U32) : U32 :=
  match module.customTable.lookup input with
  | some (output, capa) => if capa = target.hdrCapa then output else target.dataspace &&& dataspaceMask
  | none => target.dataspace &&& dataspaceMask

def coefNodes (p : Platform) (module : WcgModule) (target : TargetInfo) (dataspace : U32) :
    Option (Bool × List DatNode) :=
  let input := dataspace &&& dataspaceMask
  let output := module.outputDataspace target input
  if transferOf input = transferOf output ∧ gamutOf input = gamutOf output then
    some (false, module.slotNodes p (.modEn false))
  else if h : (transferOf input < 9 ∧ transferOf output < 9) ∧ gamutOf input < 12 ∧ gamutOf output < 12 then
    some (true, module.slotNodes p (.modEn true) ++ module.slotNodes p (.eotf ⟨transferOf input, h.1.1⟩) ++
      module.slotNodes p (.oetf ⟨transferOf output, h.1.2⟩) ++
      module.slotNodes p (.gm ⟨gamutOf input, h.2.1⟩ ⟨gamutOf output, h.2.2⟩))
  else none

end WcgModule

section
variable (hw : HwDoc) (layer : Int)

/-- A vector of which only the first value is set; the rest is as `resize` left it. -/
def firstVector (value : U32) (size : Nat) : Option (List U32) :=
  if size = 0 then none else some (value :: List.replicate (size - 1) 0)

/-- The body that the tonemap and EOTF build-ups share once `has` holds. -/
def curveNodes (spec : CurveSpecifier) (curve : Curve) : Option (List DatNode) := do
  let sizeEn ← hw.nodeNum layer spec.modEnId
  let sizeX ← hw.nodeNum layer spec.modXId
  let sizeY ← hw.nodeNum layer spec.modYId
  let xBit ← spec.modXBit
  let yBit ← spec.modYBit
  let minxBit ← spec.modMinxBit
  let en ← firstVector 1 sizeEn
  let points ← curve sizeX xBit yBit minxBit
  if sizeX ≤ sizeY then
    let x := points.toList.map Prod.fst
    let y := points.toList.map Prod.snd ++ List.replicate (sizeY - sizeX) 0
    let enPacked ← hw.packNew layer spec.modEnId en
    let xPacked ← hw.packNew layer spec.modXId x
    let yPacked ← hw.packNew layer spec.modYId y
    some [enPacked, xPacked, yPacked]
  else none

def isValidNit (nit : U32) : Bool := decide (0 < nit.toInt)

def isValidPqNit (nit : U32) : Bool := decide (0 < nit.toInt ∧ nit.toInt ≤ 4000)

def pqNodes (p : Platform) (spec : PqSpecifier) (sourceLuminance : U32) : Option (List DatNode) :=
  if spec.has && isValidPqNit sourceLuminance then do
    let (coef, shift) := p.genEotfPQ sourceLuminance
    let modEn ← (← hw.nodeNum layer spec.modEnId) |> firstVector 1
    let pqEn ← (← hw.nodeNum layer spec.pqEnId) |> firstVector 1
    let coefs ← (← hw.nodeNum layer spec.coefId) |> firstVector coef
    let shifts ← (← hw.nodeNum layer spec.shiftId) |> firstVector shift
    let modEnPacked ← hw.packNew layer spec.modEnId modEn
    let pqEnPacked ← hw.packNew layer spec.pqEnId pqEn
    let coefPacked ← hw.packNew layer spec.coefId coefs
    let shiftPacked ← hw.packNew layer spec.shiftId shifts
    some [modEnPacked, pqEnPacked, coefPacked, shiftPacked]
  else some []

def hdr10TmNodes (p : Platform) (spec : CurveSpecifier) (dataspace source target : U32) : Option (List DatNode) :=
  if spec.has && isValidNit source then
    curveNodes hw layer spec (p.genTMCurve ⟨dataspace, source, target, p.metaIf⟩)
  else some []

/-- `tm_coefBuildup` of HDR10+, which does not check the luminance. -/
def hdr10pTmNodes (p : Platform) (spec : CurveSpecifier) (dataspace source target : U32) (dynMeta : DynMeta) :
    Option (List DatNode) :=
  if spec.has then curveNodes hw layer spec (p.genTMCurveDynamic ⟨dataspace, source, target, none⟩ dynMeta)
  else some []

def hlgTmNodes (p : Platform) (spec : CurveSpecifier) (dataspace source target : U32) : Option (List DatNode) :=
  if spec.has then curveNodes hw layer spec (p.genTMCurve ⟨dataspace, source, target, none⟩)
  else some []

/-- `eotf_coefBuildup` of HDR10 and HDR10+: nothing is read of the specifier when the PQ module serves. -/
def eotfNodes (p : Platform) (eotf : Option CurveSpecifier) (pq : PqSpecifier) (dataspace source : U32) :
    Option (List DatNode) :=
  if pq.has && isValidPqNit source then some []
  else do
    let spec ← eotf
    if spec.has && isValidNit source then
      curveNodes hw layer spec (p.genEOTFCurve ⟨dataspace, source, 0, none⟩)
    else some []

def hlgEotfNodes (p : Platform) (spec : CurveSpecifier) (dataspace source : U32) : Option (List DatNode) :=
  if spec.has then curveNodes hw layer spec (p.genEOTFCurve ⟨dataspace, source, 0, none⟩)
  else some []

end

/-- `hdr10Coef::getSourceLuminance`; `override` is the luminance set through `setLogLevel`. -/
def hdr10SourceLuminance (override : U32) (layer : Layer) : U32 :=
  let validMastering := 100 < layer.masteringLuminance
  let validMaxCll := 0 < layer.maxCll
  let source : U32 :=
    if validMastering ∧ validMaxCll then
      if layer.maxCll < layer.masteringLuminance then layer.maxCll else layer.masteringLuminance
    else if validMastering then layer.masteringLuminance
    else if validMaxCll then layer.maxCll
    else 1500
  if 0 < override then override
  else if source < layer.targetLuminance then layer.targetLuminance
  else source

def hdr10TableNodes (source : U32) : List PackedNode → List DatNode
  | [] => []
  | node :: rest =>
    let here := if node.maxLuminance = -1 ∨ source = node.maxLuminance then node.coefPacked else []
    if source.toInt ≤ node.maxLuminance.toInt then here else here ++ hdr10TableNodes source rest

/-- The loop over `hdr10pNodeTable`, which compares as unsigned. -/
def hdr10pTableNodes (source : U32) (nodes : List PackedNode) : List DatNode :=
  ((nodes.find? fun node => decide (source ≤ node.maxLuminance)).map PackedNode.coefPacked).getD []

section
variable (p : Platform) (d : Documents) (override : U32) (table : LutTable) (layer : Layer)

def hdr10Nodes (source : U32) : Option (List DatNode) := do
  let fromTable := hdr10TableNodes source ((table.lookup (layer.layerIndex : Int)).getD [])
  match moduleSpecifier d.hw d.specifiers layer.layerIndex with
  | none => some fromTable
  | some spec =>
    let tm ← hdr10TmNodes d.hw layer.layerIndex p (← spec.tonemap) layer.dataspace source layer.targetLuminance
    let pq ← pqNodes d.hw layer.layerIndex p (← spec.pq) source
    let eotf ← eotfNodes d.hw layer.layerIndex p spec.eotf (← spec.pq) layer.dataspace source
    some (tm ++ pq ++ eotf ++ fromTable)

def hdr10CoefBuildup : Option (Layer × Bool) := do
  let source := hdr10SourceLuminance override layer
  let nodes ← hdr10Nodes p d table layer source
  let built ← ({ layer with sourceLuminance := source } : Layer).queue p nodes
  some (built, true)

def hdr10pNodes (source : U32) : Option (List DatNode) := do
  let fromTable := hdr10pTableNodes source ((table.lookup (layer.layerIndex : Int)).getD [])
  match moduleSpecifier d.hw d.specifiers layer.layerIndex with
  | none => some fromTable
  | some spec =>
    let tm ← hdr10pTmNodes d.hw layer.layerIndex p (← spec.tonemap) layer.dataspace source layer.targetLuminance
      layer.dynMeta
    let pq ← pqNodes d.hw layer.layerIndex p (← spec.pq) source
    let eotf ← eotfNodes d.hw layer.layerIndex p spec.eotf (← spec.pq) layer.dataspace source
    some (tm ++ pq ++ eotf ++ fromTable)

/-- `validateDynamicMeta` returns 0 on every path, so the build-up always goes on. -/
def hdr10pCoefBuildup : Option (Layer × Bool) := do
  let source := p.getMaxLuminance layer.targetLuminance layer.dynMeta
  let nodes ← hdr10pNodes p d table layer source
  let built ← ({ layer with sourceLuminance := source } : Layer).queue p nodes
  some (built, true)

def hlgNodes (first : PackedNode) : Option (List DatNode) :=
  match moduleSpecifier d.hw d.specifiers layer.layerIndex with
  | none => some first.coefPacked
  | some spec => do
    let tm ← hlgTmNodes d.hw layer.layerIndex p (← spec.tonemap) layer.dataspace 1000 layer.targetLuminance
    let eotf ← hlgEotfNodes d.hw layer.layerIndex p (← spec.eotf) layer.dataspace 1000
    some (tm ++ eotf ++ first.coefPacked)

def hlgCoefBuildup : Option (Layer × Bool) :=
  let sourced : Layer := { layer with sourceLuminance := 1000 }
  match table.lookup (layer.layerIndex : Int) with
  | some (first :: _) => do
    let nodes ← hlgNodes p d layer first
    let built ← sourced.queue p nodes
    some (built, true)
  | _ => some (sourced, false)

def tuneCoefBuildup : Option (Layer × Bool) :=
  match table.lookup (layer.layerIndex : Int) with
  | some (first :: _) => do
    let built ← layer.queue p first.coefPacked
    some (built, true)
  | _ => some (layer, false)

end

def wcgCoefBuildup (p : Platform) (table : WcgTable) (target : TargetInfo) (layer : Layer) : Option Layer := do
  let module := (table.lookup (layer.layerIndex : Int)).getD {}
  let (active, nodes) ← module.coefNodes p target layer.dataspace
  ({ layer with active } : Layer).queue p nodes

end ExynosHal.Hdr
