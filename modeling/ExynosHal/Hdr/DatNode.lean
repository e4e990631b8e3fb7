import ExynosHal.Library.Words
import Mathlib.Tactic

/-! # Register images and the lists of a layer

`hdr_dat_node` of `libhdr_parcel_header.h`, the packing of `hdrModule.h` and the two
lists and the group map that a layer keeps. `none` stands for undefined behaviour:
an index outside a vector, a write past a buffer, a copy from NULL, a shift by 32.
-/

namespace ExynosHal.Hdr

/-- A 32-bit word of a buffer, `none` while nothing has been written there. -/
abbrev Word := Option U32

def hdrLutMagic : U32 := 0xDADADADA#32

structure LutHeader where
  byteOffset : U32 := -1
  length : U32 := -1
  magic : U32 := -1
  deriving DecidableEq

/-- A node as constructed has no data: `data = none` is the NULL pointer. -/
structure DatNode where
  header : LutHeader := {}
  data : Option (List Word) := none
  groupId : Int := -1
  deriving DecidableEq

namespace DatNode

/-- `new char[length*4]`; the product is an `unsigned int`. -/
def allocate (length : U32) : List Word := List.replicate (length.toNat % 2 ^ 30) none

def setHeader (byteOffset length : U32) (node : DatNode) : DatNode where
  header := ⟨byteOffset, length, hdrLutMagic⟩
  data := if node.header.length = length then node.data else some (allocate length)
  groupId := node.groupId

def setData (words : List U32) (node : DatNode) : Option DatNode :=
  match node.data with
  | none => if words = [] then some node else none
  | some data =>
    if words.length ≤ data.length then
      some { node with data := some (words.map some ++ data.drop words.length) }
    else none

/-- `operator=` copies from `op.data`, which must not be NULL. -/
def assign (op : DatNode) : Option DatNode := op.data.map fun _ => op

def size (node : DatNode) : U32 := 12 + 4 * node.header.length

/-- The words `serialize` writes when it is called with `size()`. The data part is
`length - sizeof(struct hdr_lut_header)` bytes long, which must be what the buffer holds. -/
def serialize (node : DatNode) : Option (List Word) := do
  let data ← node.data
  if node.size.toNat = 12 + 4 * data.length then
    some ([some node.header.byteOffset, some node.header.length, some node.header.magic] ++ data)
  else none

def orWord : Word → Word → Word
  | some a, some b => some (a ||| b)
  | _, _ => none

def merge (node op : DatNode) : Option DatNode :=
  if node.header = op.header then
    match node.data with
    | none => some node
    | some data => do
      let opData ← op.data
      if data.length = node.header.length.toNat ∧ opData.length = node.header.length.toNat then
        some { node with data := some (List.zipWith orWord data opData) }
      else none
  else some node

end DatNode

/-- `hdrSubModule`, one `submodule` element of the hardware document. -/
structure SubModule where
  numNodes : Int := 0
  numNodesPerReg : Int := 0
  lastNodeAlign : Bool := false
  bitOffsets : List U32 := []
  masks : List U32 := []
  regOffset : U32 := 0
  regNum : U32 := 0
  groupId : Int := -1
  deriving DecidableEq

namespace SubModule

/-- `(luts[nth + j] & masks[j]) << bit_offsets[j]`. -/
def field (sub : SubModule) (lut : List U32) (nth j : Nat) : Option U32 := do
  let value ← lut[nth + j]?
  let mask ← sub.masks[j]?
  let bitOffset ← sub.bitOffsets[j]?
  if bitOffset.toNat < 32 then some ((value &&& mask) <<< bitOffset.toNat) else none

def packOne (sub : SubModule) (lut : List U32) (nth count : Nat) : Option U32 :=
  let js := if sub.lastNodeAlign then List.range count else (List.range count).reverse
  js.foldlM (fun packed j => (sub.field lut nth j).map (packed ||| ·)) 0

/-- `PACK`: the full registers, then one for the rest. -/
def packWords (sub : SubModule) (lut : List U32) : Option (List U32) :=
  if sub.numNodesPerReg = 0 then none
  else do
    let perReg := sub.numNodesPerReg.toNat
    let full := (sub.numNodes.tdiv sub.numNodesPerReg).toNat
    let rest := (sub.numNodes.tmod sub.numNodesPerReg).toNat
    let words ← (List.range full).mapM fun i => sub.packOne lut (i * perReg) perReg
    if rest = 0 then some words
    else
      let last ← sub.packOne lut (full * perReg) rest
      some (words ++ [last])

/-- `hdrSubModule::pack`: the return value and the node afterwards. -/
def pack (sub : SubModule) (lut : List U32) (out : DatNode) : Option (Int × DatNode) :=
  if (lut.length : Int) = sub.numNodes then do
    let words ← sub.packWords lut
    let node ← (out.setHeader sub.regOffset sub.regNum).setData words
    some (0, { node with groupId := sub.groupId })
  else some (-1, out)

end SubModule

/-- An entry of `shall` or `need`: a pointer to a table's node, kept by value (`trackTune` follows the nodes that a
reload assigns over), or to the image of a group, which later entries are still merged into. -/
inductive Ref where
  | node (n : DatNode)
  | group (id : Int)
  deriving DecidableEq

structure Lists where
  shall : List Ref := []
  need : List Ref := []
  group : List (Int × DatNode) := []
  deriving DecidableEq

namespace Lists

def deref (lists : Lists) : Ref → Option DatNode
  | .node n => some n
  | .group id => lists.group.lookup id

def setGroup (lists : Lists) (id : Int) (image : DatNode) : Lists :=
  { lists with group := lists.group.map fun entry => if entry.1 = id then (id, image) else entry }

def queueAndGroup (lists : Lists) (node : DatNode) : Option Lists :=
  if node.groupId < 0 then some { lists with shall := lists.shall ++ [.node node] }
  else
    match lists.group.lookup node.groupId with
    | some image => do
      let merged ← image.merge node
      some (lists.setGroup node.groupId merged)
    | none => do
      let image ← node.assign
      some { lists with group := lists.group ++ [(node.groupId, image)] }

def queueAll (lists : Lists) (nodes : List DatNode) : Option Lists := nodes.foldlM queueAndGroup lists

def pushGroups (order : List Int → List Int) (lists : Lists) : Lists :=
  { lists with shall := lists.shall ++ (order (lists.group.map Prod.fst)).map .group }

def transfer (lists : Lists) : Lists := { lists with shall := [], need := lists.need ++ lists.shall }

def registers (lists : Lists) (r : Ref) : Option (U32 × U32 × Int) :=
  (lists.deref r).map fun n => (n.header.byteOffset, n.header.length, n.groupId)

def cleanDuplicate (lists : Lists) : Lists :=
  { lists with shall := lists.shall.pwFilter fun a b => lists.registers a ≠ lists.registers b }

def shallNodes (lists : Lists) : List DatNode := lists.shall.filterMap lists.deref

def needNodes (lists : Lists) : List DatNode := lists.need.filterMap lists.deref

end Lists

end ExynosHal.Hdr
