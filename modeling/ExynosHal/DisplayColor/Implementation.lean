import Mathlib.Logic.Function.Basic
import ExynosHal.Library.LittleEndian

/-! # The display colour library

`libdisplaycolor_default.cpp`: the calibration documents, the table of LUTs built from them and the parcel
that `getDqeLut` writes for the driver.
-/

namespace ExynosHal.DisplayColor
open Library.BitString Library.LittleEndian

/-- A `std::string` that was made from a C string. -/
structure CString where
  bytes : List Byte
  noNul : 0#8 ∉ bytes
  deriving DecidableEq

namespace CString

def size (s : CString) : Nat := s.bytes.length

/-- What `c_str` points to, up to and with the NUL. -/
def cStr (s : CString) : List Byte := s.bytes ++ [0#8]

def empty : CString := ⟨[], List.not_mem_nil⟩

def append (s t : CString) : CString := ⟨s.bytes ++ t.bytes, by simp [s.noNul, t.noNul]⟩

theorem noNul_digits (n : Nat) : 0#8 ∉ (Nat.toDigits 10 n).map fun c => BitVec.ofNat 8 c.toNat := by
  intro hmem
  obtain ⟨c, hc, hzero⟩ := List.mem_map.mp hmem
  have hdigit := Nat.isDigit_of_mem_toDigits (by decide) (by decide) hc
  simp only [Char.isDigit, Bool.and_eq_true, decide_eq_true_eq] at hdigit
  have hlow : 48 ≤ c.toNat := UInt32.le_iff_toNat_le.mp hdigit.1
  have hhigh : c.toNat ≤ 57 := UInt32.le_iff_toNat_le.mp hdigit.2
  have hzero := congrArg BitVec.toNat hzero
  simp only [BitVec.toNat_ofNat] at hzero
  omega

def ofNat (n : Nat) : CString := ⟨(Nat.toDigits 10 n).map fun c => BitVec.ofNat 8 c.toNat, noNul_digits n⟩

def comma : CString := ⟨[44#8], by decide⟩

def minus : CString := ⟨[45#8], by decide⟩

def toString (value : Int) : CString :=
  if value < 0 then minus.append (ofNat value.natAbs) else ofNat value.natAbs

end CString

/-- `std::stoi`: blanks, a sign and decimal digits. It throws without digits and for a value that is no `int`. -/
def stoi (text : String) : Option Int :=
  let start := text.toList.dropWhile isspace
  let negative := start.head? = some '-'
  let digits := (if start.head? = some '-' ∨ start.head? = some '+' then start.tail else start).takeWhile Char.isDigit
  let value : Int := if negative then -Nat.ofDigitChars 10 digits 0 else Nat.ofDigitChars 10 digits 0
  if digits ≠ [] ∧ -2 ^ 31 ≤ value ∧ value < 2 ^ 31 then some value else none

/-- An element, with what `xmlGetProp` finds and what `xmlNodeListGetString` gives for its children. -/
inductive XmlNode where
  | node (name : String) (props : List (String × String)) (content : Option CString) (children : List XmlNode)

namespace XmlNode

def name : XmlNode → String
  | node name .. => name

def prop : XmlNode → String → Option String
  | node _ props .., key => props.lookup key

def content : XmlNode → Option CString
  | node _ _ content _ => content

def children : XmlNode → List XmlNode
  | node _ _ _ children => children

end XmlNode

/-- What is read from `/sys/class/dqe/dqe/xml`, and the documents `xmlParseFile` can parse, by the root element of each.
-/
structure System where
  targetName : Option String
  parseFile : String → Option (Option XmlNode)

def DQE_COLORMODE_MAGIC : Byte := 0xDA#8

def TRANSFORM_MATRIX_DATA_SIZE : Nat := 16 * 7

inductive NodeId where
  | cgc17Enc | cgc17Con | cgcDither | degamma | gamma | gammaMatrix | hsc48Lcg | hsc | scl | de
  deriving DecidableEq

def NodeId.value : NodeId → Byte
  | cgc17Enc => 1#8
  | cgc17Con => 2#8
  | cgcDither => 3#8
  | degamma => 4#8
  | gamma => 5#8
  | gammaMatrix => 6#8
  | hsc48Lcg => 7#8
  | hsc => 8#8
  | scl => 9#8
  | de => 10#8

/-- `DqeNodeIdMap`, as filled from `dqe_colormode_node`. -/
def dqeNodeIdMap : List (String × NodeId) :=
  [("cgc17_enc", .cgc17Enc), ("cgc17_con", .cgc17Con), ("cgc_dither", .cgcDither), ("degamma", .degamma),
    ("gamma", .gamma), ("gamma_matrix_test", .gammaMatrix), ("hsc48_lcg", .hsc48Lcg), ("hsc", .hsc), ("scl", .scl),
    ("de", .de)]

structure Attributes where
  att0 : Byte
  att1 : Byte
  att2 : Byte
  att3 : Byte
  deriving DecidableEq

structure GlobalHeader where
  magic : Byte
  seqNum : Byte
  totalSize : U16
  headerSize : U16
  numData : U16
  crc : U16
  reserved : U16
  deriving DecidableEq

structure DataHeader where
  magic : Byte
  id : Byte
  totalSize : U16
  headerSize : U16
  attr : Attributes
  crc : U16
  deriving DecidableEq

def HEADER_SIZE : Nat := 12

def GlobalHeader.bytes (h : GlobalHeader) : List Byte :=
  [h.magic, h.seqNum] ++ toLittleEndian 2 h.totalSize.toNat ++ toLittleEndian 2 h.headerSize.toNat ++
    toLittleEndian 2 h.numData.toNat ++ toLittleEndian 2 h.crc.toNat ++ toLittleEndian 2 h.reserved.toNat

def DataHeader.bytes (h : DataHeader) : List Byte :=
  [h.magic, h.id] ++ toLittleEndian 2 h.totalSize.toNat ++ toLittleEndian 2 h.headerSize.toNat ++
    [h.attr.att0, h.attr.att1, h.attr.att2, h.attr.att3] ++ toLittleEndian 2 h.crc.toNat

/-- An entry of `crc_table`: eight times the inner loop of `genCrc16Table`. -/
def crcTable (i : U16) : U16 :=
  (List.range 8).foldl (fun c _ => if c &&& 1#16 = 1#16 then DQE_COLORMODE_MAGIC.setWidth 16 ^^^ (c >>> 1) else c >>> 1)
    i

def getCrc16 (buf : List Byte) : U16 :=
  buf.foldl (fun c u => crcTable ((c ^^^ u.setWidth 16) &&& 0xFF#16) ^^^ (c >>> 8)) (DQE_COLORMODE_MAGIC.setWidth 16)
    ^^^
    0xFFFF#16

abbrev Key := U32 × U32

def insertNew {α : Type} (m : Key → Option α) (key : Key) (value : α) : Key → Option α :=
  if (m key).isSome then m else Function.update m key (some value)

structure Impl where
  gHeaderBase : GlobalHeader
  dqeLutMap : Key → Option (List CString)
  dqeLutHeaderMap : Key → Option (List DataHeader)
  dqeLutSize : Nat
  cfMatrix : CString
  cfMatrixHeader : DataHeader
  initCompleted : Bool
  mode : U32
  intent : U32
  matrixEn : Bool

/-- The members after `initUtilityVariables`; the attributes of `CFMatrixHeader` are first set by `setColorTransform`.
-/
def initUtilityVariables : Impl := {
    gHeaderBase :=
      { magic := DQE_COLORMODE_MAGIC, seqNum := 0, totalSize := 0, headerSize := BitVec.ofNat 16 HEADER_SIZE,
        numData := 0, crc := DQE_COLORMODE_MAGIC.setWidth 16, reserved := 0 }
    dqeLutMap := fun _ => none
    dqeLutHeaderMap := fun _ => none
    dqeLutSize := TRANSFORM_MATRIX_DATA_SIZE + HEADER_SIZE + HEADER_SIZE
    cfMatrix := .empty
    cfMatrixHeader := {
        magic := DQE_COLORMODE_MAGIC, id := NodeId.gammaMatrix.value, totalSize := 0,
        headerSize := BitVec.ofNat 16 HEADER_SIZE, attr := ⟨0, 0, 0, 0⟩, crc := 0 }
    initCompleted := false
    mode := -1
    intent := -1
    matrixEn := false }

def parseSubXml (root : Option XmlNode) : List XmlNode :=
  match root with
  | none => []
  | some root =>
    if root.name ≠ "Calib_Data" then []
    else
      (root.children.filter fun cur => cur.name = "mode" ∧ cur.prop "name" = some "tune").getLast?.elim []
        XmlNode.children

def COLOR_MODE_DOC_NAME : String := "/vendor/etc/dqe/calib_data_colormode"

def modeNodes (sys : System) (displayId : Nat) (cur : XmlNode) : List XmlNode :=
  match cur.prop "subxml" with
  | none => cur.children
  | some subxml =>
    match sys.parseFile (COLOR_MODE_DOC_NAME ++ ToString.toString displayId ++ "_" ++ subxml ++ ".xml") with
    | none => cur.children
    | some root => if parseSubXml root = [] then cur.children else parseSubXml root

def lutAttribute (node : XmlNode) (key : String) : Option Byte :=
  match node.prop key with
  | none => some 255#8
  | some text => (stoi text).map fun value => (BitVec.ofInt 32 value).setWidth 8

def dataHeader (id : Byte) (attr : Attributes) (text : CString) : DataHeader :=
  { magic := DQE_COLORMODE_MAGIC, id, totalSize := BitVec.ofNat 16 (HEADER_SIZE + (text.size + 1)),
    headerSize := BitVec.ofNat 16 HEADER_SIZE, attr, crc := getCrc16 text.cStr }

/-- One node of a mode. The name need not be that of a LUT; a LUT without text, and an attribute that is no number,
end the process. -/
def lutNode (node : XmlNode) : Option (Option (CString × DataHeader)) :=
  match dqeNodeIdMap.lookup node.name with
  | none => some none
  | some id => do
    let text ← node.content
    let att0 ← lutAttribute node "att0"
    let att1 ← lutAttribute node "att1"
    let att2 ← lutAttribute node "att2"
    let att3 ← lutAttribute node "att3"
    some (some (text, dataHeader id.value ⟨att0, att1, att2, att3⟩ text))

def lutTable (nodes : List XmlNode) : Option (List (CString × DataHeader)) := (nodes.mapM lutNode).map List.reduceOption

/-- `stoi` of a property that is there together with a name. `some none` is the way to `next`. -/
def namedId (cur : XmlNode) (name id : String) : Option (Option U32) :=
  match cur.prop name, cur.prop id with
  | some _, some text => (stoi text).map fun value => some (BitVec.ofInt 32 value)
  | _, _ => some none

def modeKey (cur : XmlNode) : Option (Option Key) := do
  let some mode ← namedId cur "name" "mode_id" | some none
  let some _ ← namedId cur "gamut_name" "gamut_id" | some none
  let some intent ← namedId cur "intent_name" "intent_id" | some none
  some (some (mode, intent))

def addMode (sys : System) (displayId : Nat) (d : Impl) (cur : XmlNode) : Option Impl :=
  if cur.name ≠ "mode" then some d
  else do
    let some key ← modeKey cur | some d
    let table ← lutTable (modeNodes sys displayId cur)
    -- `tmp_size` is an `int`: the LUTs of a mode have fewer than `2^31` bytes.
    let tmpSize := HEADER_SIZE + (HEADER_SIZE + TRANSFORM_MATRIX_DATA_SIZE) +
      (table.map fun entry => entry.2.totalSize.toNat).sum
    some { d with
        dqeLutMap := insertNew d.dqeLutMap key (table.map Prod.fst)
        dqeLutHeaderMap := insertNew d.dqeLutHeaderMap key (table.map Prod.snd)
        dqeLutSize := max d.dqeLutSize tmpSize }

def colorModeDocument (sys : System) (displayId : Nat) : Option (Option XmlNode) :=
  let docName := COLOR_MODE_DOC_NAME ++ ToString.toString displayId
  -- The name in sysfs ends with a newline.
  let postfixed := match sys.targetName with
    | some name => docName ++ "_" ++ String.ofList name.toList.dropLast
    | none => docName
  (sys.parseFile postfixed).or (sys.parseFile (docName ++ ".xml"))

/-- The constructor. `none` is an exception that nobody catches. -/
def createInstance (sys : System) (displayId : Nat) : Option Impl :=
  match colorModeDocument sys displayId with
  | some (some root) =>
    if root.name ≠ "Calib_Data" then some initUtilityVariables
    else do
      let d ← root.children.foldlM (addMode sys displayId) initUtilityVariables
      some { d with initCompleted := true }
  | _ => some initUtilityVariables

def setColorModeWithRenderIntent (d : Impl) (mode intent : U32) : Impl := { d with mode, intent }

def setColorMode (d : Impl) (mode : U32) : Impl := { d with mode, intent := 0 }

/-- A transform by its fixed-point values, each of which is an `int`. -/
abbrev Matrix := Fin 16 → Int32

attribute [local instance] neZero_sixteen

def matrixText (matrix : Matrix) : CString := (List.finRange 16).foldl (fun entry i =>
      let value := entry.append (CString.toString (matrix i).toInt)
      if i ≠ 15 then value.append .comma else value)
    ((CString.toString 1).append .comma)

def setColorTransform (d : Impl) (matrix : Matrix) : Impl := { d with
    cfMatrix := matrixText matrix
    cfMatrixHeader := dataHeader NodeId.gammaMatrix.value ⟨255#8, 255#8, 255#8, 255#8⟩ (matrixText matrix)
    matrixEn := true }

def clearDqeLut (d : Impl) : Impl := { d with
    gHeaderBase.seqNum := d.gHeaderBase.seqNum + 1
    mode := -1
    intent := -1
    matrixEn := false
    cfMatrix := .empty }

/-- The size of the text is what its header says. It is compared as a `size_t`, which is negative for no string. -/
def sizeAgrees (text : CString) (h : DataHeader) : Bool :=
  (text.size : Int) = (h.totalSize.toNat : Int) - h.headerSize.toNat - 1

/-- What has been written behind the global header, whether it went through, and `has_matrix`. -/
structure Emitted where
  data : List Byte
  ok : Bool
  hasMatrix : Bool

def Emitted.after (e : Emitted) (text : CString) (h : DataHeader) : Emitted :=
  { e with data := h.bytes ++ text.cStr ++ e.data }

def emitTable (d : Impl) : Bool → List (CString × DataHeader) → Emitted
  | hasMatrix, [] => { data := [], ok := true, hasMatrix }
  | hasMatrix, (text, header) :: rest =>
    if header.id = NodeId.gammaMatrix.value ∧ d.matrixEn then
      if sizeAgrees d.cfMatrix d.cfMatrixHeader then (emitTable d true rest).after d.cfMatrix d.cfMatrixHeader
      else { data := [], ok := false, hasMatrix := true }
    else if sizeAgrees text header then (emitTable d hasMatrix rest).after text header
    else { data := [], ok := false, hasMatrix }

/-- What `getDqeLut` returns and writes: the global header at the start of the parcel, once it gets there, and the data
behind it. -/
structure Output where
  ret : Int
  header : List Byte
  data : List Byte
  deriving DecidableEq

def Output.failed (data : List Byte) : Output := { ret := -1, header := [], data }

def finish (d : Impl) (data : List Byte) (count : Nat) : Output × Impl :=
  let header := { d.gHeaderBase with
    totalSize := BitVec.ofNat 16 (HEADER_SIZE + data.length), numData := BitVec.ofNat 16 count }
  ({ ret := 0, header := header.bytes, data }, clearDqeLut { d with gHeaderBase := header })

/-- `operator[]` leaves an empty entry where there was none. -/
def touchKey (d : Impl) (key : Key) : Impl :=
  { d with dqeLutMap := insertNew d.dqeLutMap key [], dqeLutHeaderMap := insertNew d.dqeLutHeaderMap key [] }

def getModeLut (d : Impl) : Output × Impl :=
  let tmpData := (d.dqeLutMap (d.mode, d.intent)).getD []
  let tmpDataHeader := (d.dqeLutHeaderMap (d.mode, d.intent)).getD []
  let touched := touchKey d (d.mode, d.intent)
  if tmpData.length ≠ tmpDataHeader.length then (.failed [], touched)
  else
    let table := emitTable d false (tmpData.zip tmpDataHeader)
    if table.ok = false then (.failed table.data, touched)
    else if d.matrixEn ∧ table.hasMatrix = false then
      finish touched (table.data ++ (d.cfMatrixHeader.bytes ++ d.cfMatrix.cStr)) (tmpData.length + 1)
    else finish touched table.data tmpData.length

def getDqeLut (d : Impl) : Output × Impl :=
  if d.initCompleted = false then (.failed [], d)
  else if d.mode ≠ -1 then getModeLut d
  else if d.matrixEn then
    if sizeAgrees d.cfMatrix d.cfMatrixHeader then finish d (d.cfMatrixHeader.bytes ++ d.cfMatrix.cStr) 1
    else (.failed [], d)
  else (.failed [], d)

end ExynosHal.DisplayColor
