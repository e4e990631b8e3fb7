/-! # Unsigned words and characters of C -/

namespace ExynosHal

abbrev U8 := BitVec 8
abbrev U16 := BitVec 16
abbrev U32 := BitVec 32
abbrev U64 := BitVec 64

abbrev Byte := U8

def isspace (c : Char) : Bool := c = ' ' || (9 ≤ c.toNat && c.toNat ≤ 13)

theorem neZero_two : @NeZero Nat Zero.ofOfNat0 2 := ⟨by decide⟩

theorem neZero_sixteen : @NeZero Nat Zero.ofOfNat0 16 := ⟨by decide⟩

end ExynosHal
