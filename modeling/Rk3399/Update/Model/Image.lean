import Rk3399.Common.Word
/-!
# Firmware images

The layout of an RKFW image as `update_recv` reads it: the packed structures
of `DefineHeader.h`, field by field from the bytes of the file.
-/

namespace Rk3399

namespace Update

/-! ## Files and strings -/

/-- What a file holds. -/
structure Content where
  size : Nat
  byte : Nat → UInt8

/-- A file whose size `stat` gives, as a signed 64-bit number. -/
structure ImageFile extends Content where
  size_lt : size < 2 ^ 63

/-- `n` bytes of a file from `offset` on. -/
def Content.bytes (file : Content) (offset n : Nat) : List UInt8 :=
  (List.range n).map fun i => file.byte (offset + i)

/-- A string of C, without its terminator. -/
structure CString where
  chars : List UInt8
  nonzero : ∀ c ∈ chars, c ≠ 0

/-- The little-endian word at `offset`. -/
def word32 (byte : Nat → UInt8) (offset : Nat) : Nat :=
  (byte offset).toNat + (byte (offset + 1)).toNat * 2 ^ 8 + (byte (offset + 2)).toNat * 2 ^ 16 +
    (byte (offset + 3)).toNat * 2 ^ 24

/-- The word as a signed number. -/
def int32 (byte : Nat → UInt8) (offset : Nat) : Int :=
  if word32 byte offset < 2 ^ 31 then word32 byte offset else word32 byte offset - 2 ^ 32

/-- A number as a `long long`. -/
def int64 (n : Nat) : Int :=
  if n % 2 ^ 64 < 2 ^ 63 then (n % 2 ^ 64 : Nat) else (n % 2 ^ 64 : Nat) - 2 ^ 64

/-! ## The head of the image -/

/-- `sizeof(STRUCT_RKIMAGE_HEAD)`. -/
def sizeofHead : Nat := 102

/-- `uiTag`. -/
def uiTag (byte : Nat → UInt8) : Nat := word32 byte 0

/-- `dwFWOffset`. -/
def dwFWOffset (byte : Nat → UInt8) : Nat := word32 byte 33

def RKFW_TAG : Nat := 0x57464B52

/-! ## The header of the items -/

/-- `MAX_PACKAGE_FILES`. -/
def MAX_PACKAGE_FILES : Nat := 16

def RKIMAGE_TAG : Nat := 0x46414B52

/-- `PART_NAME`. -/
def PART_NAME : Nat := 32

/-- `sizeof(STRUCT_RKIMAGE_HDR)`. -/
def sizeofHdr : Nat := 1932

/-- The bytes of a `STRUCT_RKIMAGE_HDR` in memory. -/
abbrev Hdr : Type := Nat → UInt8

namespace Hdr

variable (hdr : Hdr) (idx : Nat)

/-- `tag`. -/
def tag : Nat := word32 hdr 0

/-- `item_count`. -/
def itemCount : Int := int32 hdr 136

/-- Where `item[idx]` is, and `item[idx].name` with it. -/
def item : Nat := 140 + 112 * idx

/-- `item[idx].file[i]`. -/
def file (i : Nat) : UInt8 := hdr (item idx + 32 + i)

/-- The double word in `item[idx].file` from `i` on. -/
def fileWord (i : Nat) : Nat := word32 hdr (item idx + 32 + i)

/-- `item[idx].offset`. -/
def offset : Nat := word32 hdr (item idx + 96)

/-- `item[idx].size`. -/
def size : Nat := word32 hdr (item idx + 108)

/-- The size of the item: `size`, with its high word from `file[56..59]` where
`file[55]` is `'H'`. -/
def fullSize : Nat :=
  if hdr.file idx 55 = 0x48 then hdr.fileWord idx 56 * 2 ^ 32 + hdr.size idx else hdr.size idx

/-- The offset of the item: `offset`, with its high word from `file[51..54]` where
`file[50]` is `'H'`. -/
def fullOffset : Nat :=
  if hdr.file idx 50 = 0x48 then hdr.fileWord idx 51 * 2 ^ 32 + hdr.offset idx
  else hdr.offset idx

end Hdr

/-- `strcmp` of the string at `pos` of a header with `name`: whether they are equal,
or nothing where it reads a byte behind the header. It reads up to the first
difference. -/
def strcmp (hdr : Hdr) : Nat → List UInt8 → Option Bool
  | pos, [] => if pos < sizeofHdr then some (hdr pos = 0) else none
  | pos, c :: cs =>
    if pos < sizeofHdr then
      if hdr pos = c then strcmp hdr (pos + 1) cs else some false
    else none

end Update

end Rk3399
