import ExynosHal.Library.BitString

/-! # Keymaster parameters

A tag carries its type in its top four bits, and the type says which member of
the union a parameter uses. Here the value has the type its tag asks for, so a
parameter with a blob under an integer tag cannot be built.
-/

namespace ExynosHal.Strongbox.Params
open Library.BitString

/-- The values of `keymaster_error_t` that the modelled functions return. -/
inductive KmError where
  | invalidTag
  | insufficientBufferSpace
  | unknownError
  | invalidArgument
  deriving DecidableEq

inductive TagType where
  | enum
  | enumRep
  | uint
  | uintRep
  | ulong
  | date
  | bool
  | bignum
  | bytes
  | ulongRep
  deriving DecidableEq

abbrev Tag := U32

def TagType.code : TagType → Tag
  | .enum => 1#32 <<< 28
  | .enumRep => 2#32 <<< 28
  | .uint => 3#32 <<< 28
  | .uintRep => 4#32 <<< 28
  | .ulong => 5#32 <<< 28
  | .date => 6#32 <<< 28
  | .bool => 7#32 <<< 28
  | .bignum => 8#32 <<< 28
  | .bytes => 9#32 <<< 28
  | .ulongRep => 10#32 <<< 28

def TagType.all : List TagType := [.enum, .enumRep, .uint, .uintRep, .ulong, .date, .bool, .bignum, .bytes, .ulongRep]

def keymasterTagGetType (tag : Tag) : Option TagType :=
  TagType.all.find? fun type => tag &&& (0xF#32 <<< 28) = type.code

def Value : Option TagType → Type
  | some .enum => U32
  | some .enumRep => U32
  | some .uint => U32
  | some .uintRep => U32
  | some .ulong => U64
  | some .date => U64
  | some .bool => Bool
  | some .bignum => List Byte
  | some .bytes => List Byte
  | some .ulongRep => U64
  | none => Unit

structure KeyParam where
  tag : Tag
  value : Value (keymasterTagGetType tag)

def KeyParam.ofType (tag : Tag) (type : TagType) (htype : keymasterTagGetType tag = some type)
    (value : Value (some type)) : KeyParam := ⟨tag, htype ▸ value⟩

theorem KeyParam.value_ofType {β : Type} (f : (type : Option TagType) → Value type → β) (tag : Tag) (type : TagType)
    (htype : keymasterTagGetType tag = some type) (value : Value (some type)) :
    f _ (KeyParam.ofType tag type htype value).value = f (some type) value := by
  have hcast : ∀ (other : Option TagType) (h : other = some type), f other (h ▸ value) = f (some type) value := by
    rintro _ rfl
    rfl
  exact hcast _ htype

theorem KeyParam.exists_ofType {param : KeyParam} {tag : Tag} {type : TagType} (htag : param.tag = tag)
    (htype : keymasterTagGetType tag = some type) : ∃ value, param = KeyParam.ofType tag type htype value := by
  subst htag
  refine ⟨htype ▸ param.value, ?_⟩
  have hcast : ∀ (other : Option TagType) (h : other = some type) (value : Value other), h ▸ (h ▸ value) = value := by
    rintro _ rfl _
    rfl
  rw [KeyParam.ofType, hcast]

/-- `find_tag_pos(params, tag) >= 0`. -/
def hasTag (params : List KeyParam) (tag : Tag) : Bool := params.any fun param => param.tag = tag

def tagKeySize : Tag := TagType.uint.code ||| 3#32

def tagRsaPublicExponent : Tag := TagType.ulong.code ||| 200#32

def tagCreationDatetime : Tag := TagType.date.code ||| 701#32

def keySizeParam (value : U32) : KeyParam := KeyParam.ofType tagKeySize .uint (by decide) value

def rsaPublicExponentParam (value : U64) : KeyParam :=
  KeyParam.ofType tagRsaPublicExponent .ulong (by decide) value

def creationDatetimeParam (value : U64) : KeyParam := KeyParam.ofType tagCreationDatetime .date (by decide) value

end ExynosHal.Strongbox.Params
